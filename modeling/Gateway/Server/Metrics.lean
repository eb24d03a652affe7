import Gateway.Connection.Stats

/-
# The connection gauges

Every ten seconds `updateMetrics` calls `Manager.GetStats()` and hands the
result to `UpdateConnectionMetrics`, which sets the `shard_connections` gauge of
each shard to its `ActiveConnections` and the `active_connections` gauge to
their sum. `GetStats` takes no lock of the manager: it takes each shard's read
lock in turn, so the other goroutines run between two of its reads, and shard
`i` is read in a state `ss[i]` of its own (`getStatsAcross`). The statistics
module reads every shard in one state; this one does not.

The sum still counts each client at most once (`updateConnectionMetrics_total`).
For reads made in reachable states that all precede a state `last` of the same
run, `active_connections` is the number of the clients made by `last` that were
registered at the moment their own shard was read. A client is only ever held
by the shard it was made for (`Manager.holds_shard`) and no step changes that
shard (`shardID_run`), so one read at most counts it. A client registered after
its shard was read, or removed before, is not counted, whatever the other
shards held then.

Key definitions: `getStatsAcross`, `updateConnectionMetrics`. Key theorem:
`updateConnectionMetrics_total`.
-/

namespace Gateway
namespace Server

open Connection

/-- `Manager.GetStats()` beside the other goroutines: the loop reads shard `i`
under that shard's lock alone, in the state `ss[i]` the process is in when the
loop gets there, and stores it under key `i`. -/
def getStatsAcross (ss : List StatSys) : List (Nat × ShardStats) :=
  (List.range ss.length).filterMap fun i =>
    ss[i]?.bind fun s => (s.sys.mgr.getStats s.stats)[i]?.map fun st => (i, st)

/-- `UpdateConnectionMetrics(stats)`: the `shard_connections` gauge of each
shard, and `active_connections`, the sum of their `ActiveConnections`. -/
def updateConnectionMetrics (stats : List (Nat × ShardStats)) : List (Nat × Int) × Int :=
  (stats.map fun e => (e.1, e.2.activeConnections), (stats.map fun e => e.2.activeConnections).sum)

/-! ### Counting by shard -/

/-- The shards below `n + 1` are those below `n` and shard `n`. -/
theorem countP_shard_lt_succ (f : Ptr → Nat) (Q : Nat → Ptr → Bool) (n : Nat) (L : List Ptr) :
    L.countP (fun p => f p < n + 1 ∧ Q (f p) p) =
      L.countP (fun p => f p < n ∧ Q (f p) p) + L.countP (fun p => f p = n ∧ Q n p) := by
  induction L with
  | nil => rfl
  | cons a L ih =>
    simp only [List.countP_cons, ih]
    rcases Nat.lt_trichotomy (f a) n with h | h | h
    · simp [h, Nat.lt_succ_of_lt h, Nat.ne_of_lt h]
      omega
    · simp [h]
      omega
    · simp [Nat.not_lt_of_gt h, Nat.ne_of_gt h, Nat.not_lt.mpr (Nat.succ_le_of_lt h)]

/-- Counting each shard's members and summing over the shards below `n` counts
each member of a shard below `n` once. -/
theorem sum_countP_shard (f : Ptr → Nat) (Q : Nat → Ptr → Bool) (L : List Ptr) :
    ∀ n, ((List.range n).map fun i => L.countP fun p => f p = i ∧ Q i p).sum =
      L.countP fun p => f p < n ∧ Q (f p) p
  | 0 => by simp
  | n + 1 => by rw [List.sum_range_succ, sum_countP_shard f Q L n, countP_shard_lt_succ]

/-- Counting, for each read `i`, the members of shard `i` that pass the test of
read `i`, and summing over the reads, counts once each member that passes the
test of the read of its own shard. -/
theorem sum_countP_reads {α : Type} (ss : List α) (f : Ptr → Nat) (P : α → Ptr → Bool)
    (L : List Ptr) :
    ((List.range ss.length).map fun i =>
        L.countP fun p => f p = i ∧ (ss[i]?).any fun s => P s p).sum =
      L.countP fun p => (ss[f p]?).any fun s => P s p := by
  rw [sum_countP_shard f (fun i p => (ss[i]?).any fun s => P s p)]
  -- a shard read is a shard below `ss.length`
  refine List.countP_congr fun p _ => ?_
  simp only [decide_eq_true_eq]
  refine ⟨And.right, fun h => ⟨?_, h⟩⟩
  cases hq : ss[f p]? with
  | none => rw [hq] at h; cases h
  | some s => exact (List.getElem?_eq_some_iff.mp hq).1

/-- The sum of what a partial map gives, with nothing for what it leaves out. -/
theorem sum_filterMap {α β : Type} (g : α → Option β) (h : β → Int) :
    ∀ l : List α, ((l.filterMap g).map h).sum = (l.map fun a => ((g a).map h).getD 0).sum
  | [] => rfl
  | a :: l => by cases hg : g a <;> simp [List.filterMap_cons, hg, sum_filterMap g h l]

/-- Counting below a larger bound what holds only below `n`. -/
theorem countP_range_extend {P : Nat → Bool} {n n' : Nat} (hn : n ≤ n')
    (hP : ∀ p, P p = true → p < n) : (List.range n').countP P = (List.range n).countP P := by
  obtain ⟨k, rfl⟩ := Nat.exists_eq_add_of_le hn
  rw [List.range_add, List.countP_append, add_right_eq_self, List.countP_eq_zero]
  simp only [List.mem_map]
  rintro _ ⟨q, -, rfl⟩ hq
  exact absurd (hP _ hq) (by omega)

/-! ### One read -/

/-- Along a run the manager only makes clients, and never changes the shard of
one it made. -/
theorem shardID_run {s s' : Sys} (h : Relation.ReflTransGen Step s s') :
    s.mgr.next ≤ s'.mgr.next ∧
      ∀ p < s.mgr.next, (s'.mgr.heap p).shardID = (s.mgr.heap p).shardID := by
  induction h with
  | refl => exact ⟨Nat.le_refl _, fun _ _ => rfl⟩
  | tail _ hst ih =>
    cases hst with
    | call m ts c => cases c <;> exact ih
    | run m m' pre post new t e h =>
      exact ⟨Nat.le_trans ih.1 (exec_next_le h), fun p hp =>
        (exec_heap_shardID h (Nat.ne_of_lt (Nat.lt_of_lt_of_le hp ih.1))).trans (ih.2 p hp)⟩

/-- Shard `i`'s `ActiveConnections`, read in a reachable state, counts the
clients made for shard `i` by any later state that the shards held when it was
read; nothing where there is no shard `i`. -/
theorem activeConnections_read {cfg : Config} {s : StatSys} {last : Sys}
    (hs : StatReachable cfg s) (hlast : Relation.ReflTransGen Step s.sys last) (i : Nat) :
    (((s.sys.mgr.getStats s.stats)[i]?).map (·.activeConnections)).getD 0 =
      ((List.range last.mgr.next).countP fun p =>
        (last.mgr.heap p).shardID = i ∧ s.sys.mgr.holds p : Nat) := by
  obtain ⟨hd, hsid, hlen, hag⟩ := statReachable_agrees hs
  obtain ⟨hnext, hid⟩ := shardID_run hlast
  have hheld : ∀ p, s.sys.mgr.holds p = true →
      p < s.sys.mgr.next ∧ ∃ sh k, s.sys.mgr.shards[(s.sys.mgr.heap p).shardID]? = some sh ∧
        sh.clients.lookup k = some p :=
    fun p hp => Manager.holds_shard hd.keyed hd.placed hsid (Manager.holds_iff.mp hp)
  -- the clients made after the read are held by no shard at the read, and the
  -- others are made for the same shard at both
  have hcount : ((List.range last.mgr.next).countP fun p =>
      (last.mgr.heap p).shardID = i ∧ s.sys.mgr.holds p) =
      (List.range s.sys.mgr.next).countP fun p =>
        (s.sys.mgr.heap p).shardID = i ∧ s.sys.mgr.holds p := by
    rw [countP_range_extend hnext fun p hp => (hheld p (of_decide_eq_true hp).2).1]
    exact List.countP_congr fun p hp => by rw [hid p (List.mem_range.mp hp)]
  rw [hcount, Manager.getStats_eq hlen fun i sh st hsh hst => (hag i sh st hsh hst).1]
  cases hsh : s.sys.mgr.shards[i]? with
  | none =>
    -- no shard `i`: nothing read, and no client held for it
    have hst : s.stats[i]? = none := by
      rw [List.getElem?_eq_none_iff] at hsh ⊢
      omega
    rw [hst, Option.map_none', Option.getD_none, eq_comm, Nat.cast_eq_zero, List.countP_eq_zero]
    intro p _ hp
    obtain ⟨hi, hp⟩ := of_decide_eq_true hp
    obtain ⟨-, sh, -, hsh', -⟩ := hheld p hp
    rw [hi, hsh] at hsh'
    cases hsh'
  | some sh =>
    obtain ⟨st, hst⟩ : ∃ st, s.stats[i]? = some st :=
      ⟨_, List.getElem?_eq_getElem (by rw [hlen]; exact (List.getElem?_eq_some_iff.mp hsh).1)⟩
    rw [hst, Option.map_some', Option.getD_some, (hag i sh st hsh hst).1,
      clientCount_eq_countP hd.keyed hd.placed hsid hsh]

/-! ### Every spread of reads -/

/-- **`active_connections` counts each client once, however the reads
interleave**: when `GetStats` reads shard `i` in the reachable state `ss[i]`,
and every read precedes the state `last` of the same run, the gauge
`UpdateConnectionMetrics` sets is the number of the clients made by `last`
that some shard held when their own shard was read. -/
theorem updateConnectionMetrics_total {cfg : Config} {ss : List StatSys} {last : Sys}
    (hss : ∀ s ∈ ss, StatReachable cfg s ∧ Relation.ReflTransGen Step s.sys last) :
    (updateConnectionMetrics (getStatsAcross ss)).2 =
      (List.range last.mgr.next).countP fun p =>
        (ss[(last.mgr.heap p).shardID]?).any fun s => s.sys.mgr.holds p := by
  have hread : ∀ i ∈ List.range ss.length,
      (((ss[i]?.bind fun s => (s.sys.mgr.getStats s.stats)[i]?.map fun st => (i, st)).map
        fun e => e.2.activeConnections).getD 0 : Int) =
        ((List.range last.mgr.next).countP fun p =>
          (last.mgr.heap p).shardID = i ∧ (ss[i]?).any fun s => s.sys.mgr.holds p : Nat) := by
    intro i hi
    obtain ⟨s, hs⟩ : ∃ s, ss[i]? = some s :=
      ⟨_, List.getElem?_eq_getElem (List.mem_range.mp hi)⟩
    have hsl := hss s (List.getElem?_mem hs)
    simpa only [hs, Option.some_bind, Option.map_map, Option.any_some] using
      activeConnections_read hsl.1 hsl.2 i
  rw [updateConnectionMetrics, getStatsAcross, sum_filterMap, List.map_congr_left hread,
    ← sum_countP_reads, Nat.cast_list_sum, List.map_map]
  rfl

/-- Two shards. -/
def twoShards : Config := { smallConfig with shardCount := 2 }

/-- `AddConnection` has registered `c2`, which hashes to shard 0. -/
def c2Added : StatSys := statRunOf twoShards (addConnectionMoves 1 "10.0.0.1" "c2" 0)

/-- `GetStats` reads shard 0 before `c2` is registered and shard 1 after: the
gauge is 0 while `c2` is registered. -/
theorem updateConnectionMetrics_total_skewed :
    (∀ s ∈ [StatSys.init twoShards, c2Added],
        StatReachable twoShards s ∧ Relation.ReflTransGen Step s.sys c2Added.sys) ∧
      c2Added.sys.mgr.holds 0 = true ∧
      (updateConnectionMetrics (getStatsAcross [StatSys.init twoShards, c2Added])).2 = 0 ∧
      (updateConnectionMetrics (getStatsAcross [StatSys.init twoShards, c2Added])).2 =
        (List.range c2Added.sys.mgr.next).countP fun p =>
          ([StatSys.init twoShards, c2Added][(c2Added.sys.mgr.heap p).shardID]?).any
            fun s => s.sys.mgr.holds p :=
  have hc : StatReachable twoShards c2Added := statReachable_statRunOf rfl
  have hss : ∀ s ∈ [StatSys.init twoShards, c2Added],
      StatReachable twoShards s ∧ Relation.ReflTransGen Step s.sys c2Added.sys := by
    simp only [List.mem_cons, List.mem_singleton, List.not_mem_nil, or_false]
    rintro s (rfl | rfl)
    · exact ⟨.refl, hc.reachable⟩
    · exact ⟨hc, .refl⟩
  ⟨hss, by decide, by decide, updateConnectionMetrics_total hss⟩

end Server
end Gateway
