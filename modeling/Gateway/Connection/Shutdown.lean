import Gateway.Connection.System

/-
# Shutdown

`Shutdown` cancels the manager's context and waits for the wait group, which
counts the cleanup goroutine and two pumps per client. The cleanup goroutine
watches the manager's context; the pumps watch their client's own context,
which `NewClient` derives from `context.Background()` and only `Close` and
`cleanup` cancel. So cancelling the manager reaches no pump: a client whose
peer sends nothing and answers every ping keeps its `ReadPump` blocked in
`ReadMessage` and its `WritePump` ticking, and `m.wg.Wait()` never returns.

`pumps_wait_for_socket` says what a live, idle client's pumps can do: only
take an event from the socket or the ticker. `shutdown_never_returns` is a
reachable state after `Shutdown` with one such client, and the run that
stays there forever, one answered ping after another.

Key theorems: `pumps_wait_for_socket`, `shutdown_never_returns`.
-/

namespace Gateway
namespace Connection

/-- The events the peer's socket and the ticker produce: a frame, a read
error, a write (its result), a tick. -/
def Env.fromSocket : Env → Bool
  | .frame .. | .readError | .recv _ | .tick _ => true
  | _ => false

/-- **The pumps of a live client with nothing to send wait for the socket**:
any step they can take reads an event of the socket or the ticker. -/
theorem pumps_wait_for_socket {m : Manager} {p : Ptr} (hc : (m.heap p).closing = false)
    (hs : (m.heap p).send = []) {t : Thread} (ht : t = .readPump p ∨ t = .writePump p)
    (e : Env) (h : (exec t e m).isSome) : e.fromSocket := by
  obtain ⟨⟨m', ts⟩, h⟩ := Option.isSome_iff_exists.mp h
  rcases ht with rfl | rfl <;> cases exec_sound h <;> simp_all [Env.fromSocket]

theorem exec_shutdownWait {m : Manager} (hwg : m.wg ≠ 0) (e : Env) : exec .shutdownWait e m = none := by
  simp [exec, hwg]

/-- An answered ping leaves everything as it was. -/
theorem exec_writePump_tick {m : Manager} {p : Ptr} (hc : (m.heap p).closing = false) :
    exec (.writePump p) (.tick true) m = some (m, [.writePump p]) := by
  simp [exec, hc]

/-- One client connected, then `Shutdown` called, and the cleanup goroutine gone. -/
def afterShutdownCall : Sys :=
  runOf smallConfig (addConnectionMoves 1 "10.0.0.1" "c1" 0 ++ [.call .shutdown, .run 0 .done])

theorem shutdown_never_returns :
    Reachable smallConfig afterShutdownCall ∧ afterShutdownCall.mgr.cancelled = true ∧
      afterShutdownCall.threads = [.readPump 0, .writePump 0, .shutdownWait] ∧
      (∀ t ∈ afterShutdownCall.threads, ∀ e,
        (exec t e afterShutdownCall.mgr).isSome → e.fromSocket) ∧
      ∃ run : ℕ → Sys, run 0 = afterShutdownCall ∧
        ∀ n, Step (run n) (run (n + 1)) ∧ Thread.shutdownWait ∈ (run n).threads := by
  have hthreads : afterShutdownCall.threads = [.readPump 0, .writePump 0, .shutdownWait] := by
    decide
  have hc : (afterShutdownCall.mgr.heap 0).closing = false := by decide
  have hs : (afterShutdownCall.mgr.heap 0).send = [] := by decide
  have hstep : Step afterShutdownCall afterShutdownCall := by
    have he : afterShutdownCall = ⟨afterShutdownCall.mgr, [.readPump 0, .writePump 0, .shutdownWait]⟩ := by
      rw [← hthreads]
    rw [he]
    exact Step.run _ _ [.readPump 0] [.shutdownWait] [.writePump 0] _ _ (exec_writePump_tick hc)
  refine ⟨reachable_runOf rfl, by decide, hthreads, ?_, fun _ => afterShutdownCall, rfl,
    fun _ => ⟨hstep, by simp [hthreads]⟩⟩
  intro t ht e h
  simp only [hthreads, List.mem_cons, List.mem_singleton, List.not_mem_nil, or_false] at ht
  rcases ht with rfl | rfl | rfl
  · exact pumps_wait_for_socket hc hs (.inl rfl) e h
  · exact pumps_wait_for_socket hc hs (.inr rfl) e h
  · rw [exec_shutdownWait (by decide)] at h
    cases h

end Connection
end Gateway
