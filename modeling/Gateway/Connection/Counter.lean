import Gateway.Connection.System
import Mathlib.Algebra.BigOperators.Ring

/-
# The global connection counter

`globalConns` is updated outside the shard locks: `AddConnection` adds one
after `AddClient`, `RemoveClient` takes one off after its `RemoveClient` on
the shard found the client, and the sweep takes one off for each id
`CleanupInactive` returned. Each goroutine between its shard step and its
counter step owes the counter the difference (`Thread.pending`), so in every
reachable state

  `Σ len(shard.clients) = globalConns + Σ pending`

(`reachable_counterAgrees`). A sweep and a `RemoveClient` racing on one
client cannot both count it down: only the one whose shard step removed the
entry owes a decrement. When no `AddConnection`, `RemoveClient` or sweep is
under way the counter is the number of registered clients
(`globalConns_eq_registered`).

The check against `maxConns` is a separate step from the increment, so two
admissions can pass it together: with `GlobalConnections = 1`, two
concurrent `AddConnection` calls register two clients
(`globalConns_exceeds_maxConns`).

Key theorems: `reachable_counterAgrees`, `globalConns_eq_registered`.
-/

namespace Gateway
namespace Connection

/-- The clients the shards hold: the sum of `len(shard.clients)`. -/
def registered (m : Manager) : Int := (m.shards.map fun s => (s.clientCount : Int)).sum

/-- What a goroutine owes `globalConns`: one for an added client not yet
counted, minus one for each removed client not yet counted down. -/
def Thread.pending : Thread → Int
  | .addCount _ => 1
  | .removeCount .. => -1
  | .sweepCount _ ids => -ids.length
  | .sweepLookup _ _ ids => -ids.length
  | _ => 0

@[simp] theorem pending_afterRemove (pump : Option Ptr) :
    ((afterRemove pump).map Thread.pending).sum = 0 := by
  cases pump <;> rfl

/-- Shard `i` replaced: the sum moves by the difference of the two counts. -/
theorem registered_set {m m' : Manager} {i : Nat} {s s' : Shard} (hs : m.shards[i]? = some s)
    (h' : m'.shards = m.shards.set i s') :
    registered m' = registered m - s.clientCount + s'.clientCount := by
  obtain ⟨hi, rfl⟩ := List.getElem?_eq_some_iff.mp hs
  simp only [registered, h', List.map_set, List.sum_set', List.length_map, hi, dif_pos,
    List.getElem_map]
  ring

/-- A fresh id is no key of any shard. -/
theorem KeyedBelow.fresh {m : Manager} (hm : KeyedBelow m) {s : Shard} (hs : s ∈ m.shards)
    {clientID : String} (hfresh : m.issued clientID = false) : clientID ∉ s.clients := by
  intro hmem
  obtain ⟨p, hp⟩ := Option.isSome_iff_exists.mp (AList.lookup_isSome.mpr hmem)
  obtain ⟨hlt, hid⟩ := hm s hs clientID p hp
  have : m.issued clientID = true :=
    List.any_eq_true.mpr ⟨p, List.mem_range.mpr hlt, by simp [hid]⟩
  simp_all

/-! ### One step -/

section Step

variable {t : Thread} {e : Env} {m m' : Manager} {ts : List Thread}

/-- A goroutine that writes neither a shard nor the counter passes on what it owes. -/
theorem exec_pending (h : exec t e m = some (m', ts)) (hw : t.writesShard = false)
    (hc : t.writesCounter = false) : (ts.map Thread.pending).sum = t.pending := by
  cases exec_sound h <;> simp_all [Thread.writesShard, Thread.writesCounter, Thread.pending]

/-- **A step keeps `registered - globalConns - Σ pending`.** -/
theorem counter_exec (h : exec t e m = some (m', ts)) (hm : KeyedBelow m) :
    registered m' - m'.globalConns - (ts.map Thread.pending).sum =
      registered m - m.globalConns - t.pending := by
  cases hw : t.writesShard
  · cases hc : t.writesCounter
    · have hr : registered m' = registered m := by rw [registered, exec_shards h hw]; rfl
      rw [hr, exec_globalConns h hc, exec_pending h hw hc]
    · cases exec_sound h <;> simp only [Thread.writesShard, Thread.writesCounter, reduceCtorEq]
        at hw hc <;>
        simp only [registered, Thread.pending, List.map_cons, List.map_nil, List.sum_cons,
          List.sum_nil, List.length_cons, List.length_nil] <;> push_cast <;> ring
  · cases t <;> simp only [Thread.writesShard, reduceCtorEq] at hw
    case addRegister ip =>
      obtain ⟨clientID, now, s, hfresh, hs, rfl, rfl⟩ := exec_addRegister h
      have hnew : (m.withClient ip clientID now m.next).id = clientID := by
        simp [Manager.withClient, newClient]
      have hc := Shard.clientCount_addClient (m.withClient ip clientID now) m.next
        (hnew ▸ hm.fresh (List.getElem?_mem hs) hfresh)
      simp only [Thread.pending, List.map_cons, List.map_nil, List.sum_cons, List.sum_nil]
      rw [registered_set hs rfl, hc]
      push_cast
      ring
    case authRegister i p userID deviceID =>
      obtain ⟨s, hs, rfl, rfl⟩ := exec_authRegister h
      rw [registered_set hs rfl]
      simp only [Thread.pending, List.map_nil, List.sum_nil, Shard.clientCount,
        Shard.registerAuthenticatedClient_clients]
      ring
    case removeShard clientID reason pump =>
      obtain ⟨s, hs, rfl, rfl⟩ := exec_removeShard h
      rw [registered_set hs rfl]
      unfold Shard.removeClient
      split
      · simp [Thread.pending]
      · next p hp =>
        have := Shard.clientCount_unlink (m.heap p)
          (AList.lookup_isSome.mp (Option.isSome_iff_exists.mpr ⟨p, hp⟩))
        simp only [Thread.pending, List.map_cons, List.map_nil, List.sum_cons, List.sum_nil]
        omega
    case sweepShard i =>
      rcases exec_sweepShard h with ⟨-, rfl, rfl⟩ | ⟨now, s, hs, rfl, rfl⟩
      · simp [Thread.pending]
      · have hc := s.clientCount_cleanupInactive m.heap (m.config.pongWait * 2) now
        simp only [Thread.pending, List.map_cons, List.map_nil, List.sum_cons, List.sum_nil]
        rw [registered_set hs rfl]
        omega

end Step

/-! ### Every run -/

/-- The counter and the registry agree up to what the goroutines owe. -/
def CounterAgrees (s : Sys) : Prop :=
  registered s.mgr - s.mgr.globalConns = (s.threads.map Thread.pending).sum

theorem registered_newManager (cfg : Config) : registered (newManager cfg) = 0 := by
  simp only [registered, newManager, List.map_map]
  exact List.sum_eq_zero fun x hx => by
    obtain ⟨i, -, rfl⟩ := List.mem_map.mp hx
    rfl

theorem counterAgrees_inductive (cfg : Config) :
    Inductive cfg fun s => KeyedBelow s.mgr ∧ CounterAgrees s where
  init := ⟨keyedBelow_newManager cfg, by
    simp only [CounterAgrees, init, registered_newManager]
    rfl⟩
  step := by
    intro s s' ⟨hk, hc⟩ hst
    cases hst with
    | call m ts c =>
      refine ⟨by cases c <;> exact hk, ?_⟩
      cases c <;> simpa [CounterAgrees, Call.start, registered, Thread.pending] using hc
    | run m m' pre post new t e h =>
      refine ⟨keyedBelow_exec h hk, ?_⟩
      have := counter_exec h hk
      simp only [CounterAgrees, List.map_append, List.map_cons, List.sum_append,
        List.sum_cons] at hc ⊢
      linarith

/-- **In every reachable state the counter is the number of registered clients
less what the goroutines under way owe it.** -/
theorem reachable_counterAgrees {cfg : Config} {s : Sys} (hs : Reachable cfg s) :
    CounterAgrees s :=
  ((counterAgrees_inductive cfg).reachable hs).2

/-- The goroutines inside `AddConnection`, `RemoveClient` or a sweep. -/
def Thread.inCounterCall : Thread → Bool
  | .addCheck _ | .addAllow _ | .addRegister _ | .addCount _ | .addStart _
  | .removeShard .. | .removeCount .. | .removeClose .. | .removeNotify ..
  | .sweepShard _ | .sweepCount .. | .sweepLookup .. => true
  | _ => false

theorem pending_eq_zero {t : Thread} (ht : t.inCounterCall = false) : t.pending = 0 := by
  cases t <;> simp_all [Thread.inCounterCall, Thread.pending]

theorem globalConns_eq_registered {cfg : Config} {s : Sys} (hs : Reachable cfg s)
    (hq : ∀ t ∈ s.threads, t.inCounterCall = false) :
    s.mgr.globalConns = ((s.mgr.shards.map Shard.clientCount).sum : Nat) := by
  have hc := ((counterAgrees_inductive cfg).reachable hs).2
  have h0 : (s.threads.map Thread.pending).sum = 0 :=
    List.sum_eq_zero fun x hx => by
      obtain ⟨t, ht, rfl⟩ := List.mem_map.mp hx
      exact pending_eq_zero (hq t ht)
  simp only [CounterAgrees, h0, registered] at hc
  rw [Nat.cast_list_sum, List.map_map]
  exact (sub_eq_zero.mp hc).symm

/-- `smallConfig` with room for one connection. -/
def oneConnConfig : Config := { smallConfig with globalConnections := 1 }

/-- The process once one `AddConnection` has returned: its client's pumps run. -/
def afterAddOne : Sys := runOf oneConnConfig (addConnectionMoves 1 "10.0.0.1" "c1" 0)

theorem reachable_afterAddOne : Reachable oneConnConfig afterAddOne := reachable_runOf rfl

theorem counterAgrees_afterAddOne :
    Reachable oneConnConfig afterAddOne ∧ CounterAgrees afterAddOne :=
  ⟨reachable_afterAddOne, reachable_counterAgrees reachable_afterAddOne⟩

theorem globalConns_afterAddOne :
    Reachable oneConnConfig afterAddOne ∧
      (∀ t ∈ afterAddOne.threads, t.inCounterCall = false) ∧
      afterAddOne.mgr.globalConns = ((afterAddOne.mgr.shards.map Shard.clientCount).sum : Nat) ∧
      afterAddOne.mgr.globalConns = 1 :=
  ⟨reachable_afterAddOne, by decide,
    globalConns_eq_registered reachable_afterAddOne (by decide), by decide⟩

/-! ### The ceiling -/

/-- Two `AddConnection` calls that both pass the check before either adds. -/
def twoAdmissions : List Move :=
  [.call (.addConnection "10.0.0.1"), .call (.addConnection "10.0.0.2"),
    .run 1 .quiet, .run 2 .quiet,
    .run 1 (.allow true), .run 2 (.allow true),
    .run 1 (.fresh "c1" 0), .run 2 (.fresh "c2" 0),
    .run 1 .quiet, .run 2 .quiet]

theorem globalConns_exceeds_maxConns :
    ∃ s, Reachable oneConnConfig s ∧ s.mgr.maxConns = 1 ∧ s.mgr.globalConns = 2 ∧
      registered s.mgr = 2 :=
  ⟨runOf oneConnConfig twoAdmissions, reachable_runOf rfl, by decide, by decide, by decide⟩

end Connection
end Gateway
