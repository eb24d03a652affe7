import Gateway.Connection.Lifecycle
import Gateway.Connection.Counter

/-
# The shards' statistics

Each shard keeps counters beside its maps, written under its lock:
`AddClient` adds one to `TotalConnections` and to `ActiveConnections`;
`RemoveClient`, once it has found the client, takes one from
`ActiveConnections` and adds one to `Disconnections`; `CleanupInactive`
takes the number of clients it removed from `ActiveConnections` and stamps
`LastCleanup`. `GetStats` returns them with `ActiveConnections` read off
`len(s.clients)`, and `Manager.GetStats` collects them by shard index.

The process with the statistics is the process of
`Gateway.Connection.System` with each shard's stats updated by the steps that
call those methods (`StatStep`); it has the runs of the process and no other
(`StatReachable.reachable`, `reachable_statReachable`). In every reachable
state, for every shard (`reachable_shardStats`), `ActiveConnections` is
`len(s.clients)`, so `GetStats` reports the counters as they are kept;
`TotalConnections` is the number of clients `AddConnection` made for the
shard; and `Disconnections` is the number of those that `RemoveClient` took
out of it. A client the sweep removed is counted in neither
`ActiveConnections` nor `Disconnections`.

Key definitions: `ShardStats`, `statsExec`, `StatStep`. Key theorem:
`reachable_shardStats`.
-/

namespace Gateway
namespace Connection

/-! ### The counters -/

/-- `ShardStats`, with the fields the shard writes; `MessagesProcessed` and
`BytesProcessed`, which no code writes, are left out. -/
structure ShardStats where
  totalConnections : Int := 0
  activeConnections : Int := 0
  disconnections : Int := 0
  /-- `LastCleanup`, in nanoseconds. -/
  lastCleanup : Int := 0
  deriving DecidableEq, Repr

/-- The counters `AddClient` moves. -/
def ShardStats.addClient (st : ShardStats) : ShardStats :=
  { st with totalConnections := st.totalConnections + 1,
            activeConnections := st.activeConnections + 1 }

/-- The counters `RemoveClient` moves once it has found the client. -/
def ShardStats.removeClient (st : ShardStats) : ShardStats :=
  { st with activeConnections := st.activeConnections - 1,
            disconnections := st.disconnections + 1 }

/-- The counters `CleanupInactive` moves at `now`, having removed `removed`. -/
def ShardStats.cleanupInactive (st : ShardStats) (removed : List String) (now : Int) :
    ShardStats :=
  { st with activeConnections := st.activeConnections - removed.length, lastCleanup := now }

/-- `GetStats()` of a shard whose counters are `st`. -/
def Shard.getStats (s : Shard) (st : ShardStats) : ShardStats :=
  { st with activeConnections := s.clientCount }

/-- `Manager.GetStats()`: the stats of shard `i` under key `i`. -/
def Manager.getStats (m : Manager) (stats : List ShardStats) : List ShardStats :=
  List.zipWith Shard.getStats m.shards stats

/-- The shards' stats after a step: the steps that call `AddClient`,
`RemoveClient` and `CleanupInactive` on a shard update its stats as the
method does, in the same critical section. -/
def statsExec (t : Thread) (e : Env) (m : Manager) (stats : List ShardStats) :
    List ShardStats :=
  match t, e with
  | .addRegister _, .fresh clientID _ => stats.modify ShardStats.addClient (m.getShardID clientID)
  | .removeShard clientID _ _, _ =>
    match (m.shards[m.getShardID clientID]?).bind fun s => (s.removeClient m.heap clientID).2 with
    | some _ => stats.modify ShardStats.removeClient (m.getShardID clientID)
    | none => stats
  | .sweepShard i, .clock now =>
    match m.shards[i]? with
    | some s =>
      stats.modify (·.cleanupInactive (s.cleanupInactive m.heap (m.config.pongWait * 2) now).2 now) i
    | none => stats
  | _, _ => stats

theorem statsExec_of_writesShard {t : Thread} (ht : t.writesShard = false) (e : Env) (m : Manager)
    (stats : List ShardStats) : statsExec t e m stats = stats := by
  cases t <;> first | rfl | cases ht

/-! ### The process with the statistics -/

/-- The process, with each shard's stats by index. -/
structure StatSys where
  sys : Sys
  stats : List ShardStats

/-- A step of the process, with the stats the step writes. -/
inductive StatStep : StatSys → StatSys → Prop
  | call (m : Manager) (ts : List Thread) (c : Call) (stats : List ShardStats) :
      StatStep ⟨⟨m, ts⟩, stats⟩ ⟨⟨(c.start m).1, ts ++ [(c.start m).2]⟩, stats⟩
  | run (m m' : Manager) (pre post new : List Thread) (t : Thread) (e : Env)
      (stats : List ShardStats) : exec t e m = some (m', new) →
      StatStep ⟨⟨m, pre ++ t :: post⟩, stats⟩ ⟨⟨m', pre ++ new ++ post⟩, statsExec t e m stats⟩

/-- `NewManager(cfg)`: `NewShard` leaves the stats at their zero value. -/
def StatSys.init (cfg : Config) : StatSys :=
  ⟨Connection.init cfg, (newManager cfg).shards.map fun _ => {}⟩

def StatReachable (cfg : Config) (s : StatSys) : Prop :=
  Relation.ReflTransGen StatStep (StatSys.init cfg) s

theorem StatStep.step {s s' : StatSys} (h : StatStep s s') : Step s.sys s'.sys := by
  cases h with
  | call m ts c => exact .call m ts c
  | run m m' pre post new t e _ h => exact .run m m' pre post new t e h

/-- The stats change no run: a state of the process with stats is a state of
the process. -/
theorem StatReachable.reachable {cfg : Config} {s : StatSys} (h : StatReachable cfg s) :
    Reachable cfg s.sys := by
  induction h with
  | refl => exact .refl
  | tail _ hst ih => exact .tail ih hst.step

/-- Every state of the process is reached with some stats. -/
theorem reachable_statReachable {cfg : Config} {s : Sys} (h : Reachable cfg s) :
    ∃ stats, StatReachable cfg ⟨s, stats⟩ := by
  induction h with
  | refl => exact ⟨_, .refl⟩
  | tail _ hst ih =>
    obtain ⟨stats, hr⟩ := ih
    cases hst with
    | call m ts c => exact ⟨stats, .tail hr (.call m ts c stats)⟩
    | run m m' pre post new t e h => exact ⟨_, .tail hr (.run m m' pre post new t e stats h)⟩

/-! ### Counting clients by shard -/

/-- The clients of `ps` made for shard `i`. -/
def shardCount (heap : Ptr → Client) (i : Nat) (ps : List Ptr) : Nat :=
  ps.countP fun p => (heap p).shardID = i

theorem shardCount_congr {heap heap' : Ptr → Client} {i : Nat} {ps : List Ptr}
    (h : ∀ p ∈ ps, (heap' p).shardID = (heap p).shardID) :
    shardCount heap' i ps = shardCount heap i ps :=
  List.countP_congr fun p hp => by simp only [h p hp]

theorem shardCount_perm {heap : Ptr → Client} {i : Nat} {ps qs : List Ptr} (h : ps.Perm qs) :
    shardCount heap i ps = shardCount heap i qs :=
  h.countP_eq _

/-- Every client the manager made names the shard its id hashes to, as
`AddConnection` passes `getShardID(clientID)` to `NewClient`. -/
def ShardIDOf (m : Manager) : Prop :=
  ∀ p < m.next, (m.heap p).shardID = m.getShardID (m.heap p).id

section Step

variable {t : Thread} {e : Env} {m m' : Manager} {ts : List Thread}

/-- No step moves a client made to another shard. -/
theorem exec_heap_shardID (h : exec t e m = some (m', ts)) {q : Ptr} (hq : q ≠ m.next) :
    (m'.heap q).shardID = (m.heap q).shardID :=
  (exec_heap_keys h hq).2

/-- A step that makes no client keeps the count of the clients made for each shard. -/
theorem exec_made (h : exec t e m = some (m', ts)) (ha : t.allocates = false) (i : Nat) :
    shardCount m'.heap i (List.range m'.next) = shardCount m.heap i (List.range m.next) := by
  rw [exec_next h ha]
  exact shardCount_congr fun q hq => exec_heap_shardID h (Nat.ne_of_lt (List.mem_range.mp hq))

/-- `AddConnection`'s shard step, with the id and time the environment gave. -/
theorem exec_addRegister_at {ip clientID : String} {now : Int}
    (h : exec (.addRegister ip) (.fresh clientID now) m = some (m', ts)) :
    ∃ s, m.issued clientID = false ∧ m.shards[m.getShardID clientID]? = some s ∧
      m' = { m with
        shards := m.shards.set (m.getShardID clientID)
          (s.addClient (m.withClient ip clientID now) m.next),
        heap := m.withClient ip clientID now, next := m.next + 1 } ∧
      ts = [.addCount m.next] := by
  cases exec_sound h with
  | addRegister _ _ _ _ s hi hs => exact ⟨s, hi, hs, rfl, rfl⟩

/-- The sweep's shard step, at the time the clock gave. -/
theorem exec_sweepShard_at {i : Nat} {now : Int}
    (h : exec (.sweepShard i) (.clock now) m = some (m', ts)) :
    (m.shards[i]? = none ∧ m' = m ∧ ts = [.cleanupRoutine]) ∨
    ∃ s, m.shards[i]? = some s ∧
      m' = { m with
        shards := m.shards.set i (s.cleanupInactive m.heap (m.config.pongWait * 2) now).1 } ∧
      ts = [.sweepCount i (s.cleanupInactive m.heap (m.config.pongWait * 2) now).2] := by
  cases exec_sound h with
  | sweepEnd _ _ _ hs => exact .inl ⟨hs, rfl, rfl⟩
  | sweepShard _ _ _ s hs => exact .inr ⟨s, hs, rfl, rfl⟩

theorem shardIDOf_exec (h : exec t e m = some (m', ts)) (hm : ShardIDOf m) : ShardIDOf m' := by
  intro p hp
  rw [exec_getShardID h]
  cases ha : t.allocates
  · have hp' : p < m.next := exec_next h ha ▸ hp
    rw [exec_heap_shardID h (Nat.ne_of_lt hp'), exec_heap_id h (Nat.ne_of_lt hp')]
    exact hm p hp'
  · cases t <;> simp only [Thread.allocates, reduceCtorEq] at ha
    obtain ⟨clientID, now, s, -, -, rfl, rfl⟩ := exec_addRegister h
    by_cases hpn : p = m.next
    · subst hpn
      simp [Manager.withClient, newClient]
    · have hp' : p < m.next := Nat.lt_of_le_of_ne (Nat.le_of_lt_succ hp) hpn
      simpa [Manager.withClient, Function.update_noteq hpn] using hm p hp'

end Step

theorem shardIDOf_newManager (cfg : Config) : ShardIDOf (newManager cfg) := fun p hp => by
  simp [newManager] at hp

/-- The clients under removal and reported change by no step but
`RemoveClient`'s shard step, except in order. -/
theorem claimed_run_perm {m m' : Manager} {pre post ts : List Thread} {t : Thread} {e : Env}
    (h : exec t e m = some (m', ts)) (hd : DisconnectOnce ⟨m, pre ++ t :: post⟩)
    (hw : t.writesShard = false) :
    (Sys.claimed ⟨m', pre ++ ts ++ post⟩).Perm (Sys.claimed ⟨m, pre ++ t :: post⟩) := by
  rcases (@hook_run m m' pre post ts t e h hd.keyed hd.placed hd.gone).1 with
    hp | ⟨p, -, hreg, -, hu⟩
  · exact hp
  · exact absurd (by simpa only [Manager.Unregistered, exec_shards h hw] using hu) hreg

/-- A step that writes a shard but holds no client keeps the clients under
removal and reported. -/
theorem claimed_run_eq {m m' : Manager} {pre post ts : List Thread} {t : Thread} {e : Env}
    (h : exec t e m = some (m', ts)) (hr : t.removes = false) (hn : t.notifies = false)
    (ht : t.removing = none) :
    Sys.claimed ⟨m', pre ++ ts ++ post⟩ = Sys.claimed ⟨m, pre ++ t :: post⟩ := by
  simp only [Sys.claimed, List.filterMap_append, filterMap_cons_toList, (exec_no_removing h hr).1,
    ht, exec_disconnects h hn, Option.toList, List.nil_append, List.append_nil]

/-! ### Every run -/

/-- The stats `st` of shard `i`, which is `sh`, count as the registry and the
process say. -/
def ShardStats.Agrees (st : ShardStats) (s : Sys) (i : Nat) (sh : Shard) : Prop :=
  st.activeConnections = sh.clientCount ∧
    st.totalConnections = shardCount s.mgr.heap i (List.range s.mgr.next) ∧
    st.disconnections = shardCount s.mgr.heap i s.claimed

/-- Stats of a shard whose clients did not change count alike after a step
that keeps the counts of its clients made and claimed. -/
theorem ShardStats.Agrees.frame {st : ShardStats} {s s' : Sys} {j : Nat} {sh : Shard}
    (hst : st.Agrees s j sh)
    (hmade : shardCount s'.mgr.heap j (List.range s'.mgr.next) =
      shardCount s.mgr.heap j (List.range s.mgr.next))
    (hcl : shardCount s'.mgr.heap j s'.claimed = shardCount s.mgr.heap j s.claimed) :
    st.Agrees s' j sh := by
  refine ⟨hst.1, ?_, ?_⟩
  · rw [hmade]; exact hst.2.1
  · rw [hcl]; exact hst.2.2

/-- Every shard has its stats, and they count as the registry and the process say. -/
def StatsAgree (s : StatSys) : Prop :=
  s.stats.length = s.sys.mgr.shards.length ∧
    ∀ i sh (st : ShardStats), s.sys.mgr.shards[i]? = some sh → s.stats[i]? = some st →
      st.Agrees s.sys i sh

/-- A step that replaces shard `i` and updates its stats by `f`, keeping the
counts of the other shards. -/
theorem statsAgree_modify {s s' : Sys} {stats stats' : List ShardStats} {i : Nat}
    {sh sh' : Shard}
    (f : ShardStats → ShardStats) (hs : StatsAgree ⟨s, stats⟩) (hsh : s.mgr.shards[i]? = some sh)
    (hshards : s'.mgr.shards = s.mgr.shards.set i sh') (hstats : stats' = stats.modify f i)
    (hother : ∀ j sh (st : ShardStats), j ≠ i → s.mgr.shards[j]? = some sh →
      st.Agrees s j sh → st.Agrees s' j sh)
    (hi : ∀ st : ShardStats, st.Agrees s i sh → (f st).Agrees s' i sh') :
    StatsAgree ⟨s', stats'⟩ := by
  subst hstats
  refine ⟨by simp only [hshards, List.length_set, List.length_modify, hs.1],
    fun j sh₁ st hj hst => ?_⟩
  have hlt := (List.getElem?_eq_some_iff.mp hsh).1
  by_cases hji : j = i
  · subst hji
    rw [hshards, List.getElem?_set_self hlt, Option.some.injEq] at hj
    subst hj
    have hst₀ := List.getElem?_eq_getElem (hs.1 ▸ hlt)
    simp only [List.getElem?_modify_eq, hst₀, Option.map_eq_map, Option.map_some',
      Option.some.injEq] at hst
    exact hst ▸ hi _ (hs.2 j sh _ hsh hst₀)
  · rw [hshards, List.getElem?_set_ne (Ne.symm hji)] at hj
    rw [List.getElem?_modify_ne _ _ (Ne.symm hji)] at hst
    exact hother j sh₁ st hji hj (hs.2 j sh₁ st hj hst)

/-- `AddConnection` makes one client more, for the shard its id hashes to. -/
theorem shardCount_withClient (m : Manager) (ip clientID : String) (now : Int) (j : Nat) :
    shardCount (m.withClient ip clientID now) j (List.range (m.next + 1)) =
      shardCount m.heap j (List.range m.next) + if m.getShardID clientID = j then 1 else 0 := by
  rw [List.range_succ, shardCount, List.countP_append, ← shardCount,
    shardCount_congr fun q hq => by
      rw [Manager.withClient, Function.update_noteq (Nat.ne_of_lt (List.mem_range.mp hq))]]
  simp [List.countP_cons, Manager.withClient, newClient]

/-- The clients under removal and reported, counted by shard, are the same
after a step that keeps them up to order. -/
theorem shardCount_claimed {t : Thread} {e : Env} {m m' : Manager} {ts l l' : List Thread}
    (h : exec t e m = some (m', ts)) (hd : DisconnectOnce ⟨m, l⟩)
    (hperm : (Sys.claimed ⟨m', l'⟩).Perm (Sys.claimed ⟨m, l⟩)) (j : Nat) :
    shardCount m'.heap j (Sys.claimed ⟨m', l'⟩) =
      shardCount m.heap j (Sys.claimed ⟨m, l⟩) :=
  (shardCount_perm hperm).trans
    (shardCount_congr fun p hp => exec_heap_shardID h (Nat.ne_of_lt (hd.claimed_gone p hp).1))

/-- `RemoveClient`'s shard step: the goroutine holds the client it found, or
none. -/
theorem claimed_removeShard (m m' : Manager) (hdis : m'.disconnects = m.disconnects)
    (pre post : List Thread) (clientID reason : String) (pump : Option Ptr) :
    Sys.claimed ⟨m', pre ++ afterRemove pump ++ post⟩ =
        Sys.claimed ⟨m, pre ++ .removeShard clientID reason pump :: post⟩ ∧
      ∀ p, (Sys.claimed ⟨m', pre ++ [.removeCount p reason pump] ++ post⟩).Perm
        (p :: Sys.claimed ⟨m, pre ++ .removeShard clientID reason pump :: post⟩) := by
  simp only [Sys.claimed, List.filterMap_append, filterMap_cons_toList,
    filterMap_removing_afterRemove, Thread.removing, Option.toList, hdis, List.filterMap_nil,
    List.append_nil, List.nil_append, true_and]
  exact fun p => List.perm_iff_count.mpr fun a => by
    simp only [List.count_append, List.count_cons, List.count_nil]
    omega

section Steps

variable {m m' : Manager} {pre post ts : List Thread} {e : Env} {stats : List ShardStats}

/-- `AddClient` counts the client it makes in the total and the active count of
its shard. -/
theorem statsAgree_addRegister {ip : String} (h : exec (.addRegister ip) e m = some (m', ts))
    (hd : DisconnectOnce ⟨m, pre ++ .addRegister ip :: post⟩)
    (hs : StatsAgree ⟨⟨m, pre ++ .addRegister ip :: post⟩, stats⟩) :
    StatsAgree ⟨⟨m', pre ++ ts ++ post⟩, statsExec (.addRegister ip) e m stats⟩ := by
  cases e <;> try cases h
  case fresh clientID now =>
  obtain ⟨sh, hfresh, hsh, rfl, rfl⟩ := exec_addRegister_at h
  have hcl := shardCount_claimed h hd (.of_eq (claimed_run_eq h rfl rfl rfl))
  have hid : (m.withClient ip clientID now m.next).id = clientID := by
    simp [Manager.withClient, newClient]
  have hc := Shard.clientCount_addClient (m.withClient ip clientID now) m.next
    (hid ▸ hd.keyed.fresh (List.getElem?_mem hsh) hfresh)
  refine statsAgree_modify ShardStats.addClient hs hsh rfl rfl (fun j _ _ hj _ hst => hst.frame
      (by simp only [shardCount_withClient, if_neg (Ne.symm hj), Nat.add_zero]) (hcl j))
    fun st ⟨h1, h2, h3⟩ => ⟨?_, ?_, by rw [hcl]; exact h3⟩
  · simp only [ShardStats.addClient, h1, hc, Nat.cast_add, Nat.cast_one]
  · simp only [ShardStats.addClient, h2, shardCount_withClient, if_pos, Nat.cast_add, Nat.cast_one]

/-- `RegisterAuthenticatedClient` writes no count. -/
theorem statsAgree_authRegister {i : Nat} {p : Ptr} {userID deviceID : String}
    (h : exec (.authRegister i p userID deviceID) e m = some (m', ts))
    (hd : DisconnectOnce ⟨m, pre ++ .authRegister i p userID deviceID :: post⟩)
    (hs : StatsAgree ⟨⟨m, pre ++ .authRegister i p userID deviceID :: post⟩, stats⟩) :
    StatsAgree
      ⟨⟨m', pre ++ ts ++ post⟩, statsExec (.authRegister i p userID deviceID) e m stats⟩ := by
  obtain ⟨sh, hsh, rfl, rfl⟩ := exec_authRegister h
  have hcl := shardCount_claimed h hd (.of_eq (claimed_run_eq h rfl rfl rfl))
  refine statsAgree_modify id hs hsh rfl (List.modify_id i stats).symm
    (fun j _ _ _ _ hst => hst.frame (exec_made h rfl j) (hcl j)) fun st ⟨h1, h2, h3⟩ =>
      ⟨by simpa [Shard.clientCount] using h1,
        h2.trans (congrArg Nat.cast (exec_made h rfl i).symm),
        h3.trans (congrArg Nat.cast (hcl i).symm)⟩

/-- `RemoveClient` moves the client it found from the active count of its shard
to the disconnections. -/
theorem statsAgree_removeShard {clientID reason : String} {pump : Option Ptr}
    (h : exec (.removeShard clientID reason pump) e m = some (m', ts))
    (hd : DisconnectOnce ⟨m, pre ++ .removeShard clientID reason pump :: post⟩)
    (hsid : ShardIDOf m)
    (hs : StatsAgree ⟨⟨m, pre ++ .removeShard clientID reason pump :: post⟩, stats⟩) :
    StatsAgree
      ⟨⟨m', pre ++ ts ++ post⟩, statsExec (.removeShard clientID reason pump) e m stats⟩ := by
  obtain ⟨sh, hsh, rfl, rfl⟩ := exec_removeShard h
  obtain ⟨hnone, hsome⟩ := claimed_removeShard m
    { m with shards := m.shards.set (m.getShardID clientID) (sh.removeClient m.heap clientID).1 }
    rfl pre post clientID reason pump
  simp only [statsExec, hsh, Option.some_bind]
  cases hr : (sh.removeClient m.heap clientID).2 with
  | none =>
    -- nothing found: the shard is as it was
    have hsame : (sh.removeClient m.heap clientID).1 = sh := by
      unfold Shard.removeClient at hr ⊢
      split at hr <;> simp_all
    have hcl := shardCount_claimed h hd (.of_eq hnone)
    refine statsAgree_modify id hs hsh rfl (List.modify_id _ stats).symm
      (fun j _ _ _ _ hst => hst.frame (exec_made h rfl j) (hcl j)) fun st hst => ?_
    rw [hsame]
    exact hst.frame (exec_made h rfl _) (hcl _)
  | some p =>
    -- `p` moves from the active count to the disconnections of its shard
    dsimp only
    obtain ⟨hl, -⟩ := Shard.removeClient_some hr
    obtain ⟨hlt, hid⟩ := hd.keyed sh (List.getElem?_mem hsh) clientID p hl
    have hsp : (m.heap p).shardID = m.getShardID clientID := hid ▸ hsid p hlt
    have hc : (sh.removeClient m.heap clientID).1.clientCount + 1 = sh.clientCount := by
      unfold Shard.removeClient
      rw [hl]
      exact Shard.clientCount_unlink _ (AList.lookup_isSome.mp (by rw [hl]; rfl))
    have hcl : ∀ j,
        shardCount m.heap j (Sys.claimed ⟨_, pre ++ [.removeCount p reason pump] ++ post⟩) =
          shardCount m.heap j
              (Sys.claimed ⟨m, pre ++ .removeShard clientID reason pump :: post⟩) +
            if m.getShardID clientID = j then 1 else 0 := fun j => by
      rw [shardCount_perm (hsome p), shardCount, List.countP_cons, ← shardCount, hsp]
      simp
    refine statsAgree_modify ShardStats.removeClient hs hsh rfl rfl (fun j _ _ hj _ hst =>
        hst.frame (exec_made h rfl j) ((hcl j).trans (by rw [if_neg (Ne.symm hj), Nat.add_zero])))
      fun st ⟨h1, h2, h3⟩ => ⟨?_, h2, ?_⟩
    · simp only [ShardStats.removeClient, h1]
      omega
    · dsimp only
      simp only [ShardStats.removeClient, h3, hcl, if_pos, Nat.cast_add, Nat.cast_one]

/-- `CleanupInactive` takes what it removed from the active count of its shard. -/
theorem statsAgree_sweepShard {i : Nat} (h : exec (.sweepShard i) e m = some (m', ts))
    (hd : DisconnectOnce ⟨m, pre ++ .sweepShard i :: post⟩)
    (hs : StatsAgree ⟨⟨m, pre ++ .sweepShard i :: post⟩, stats⟩) :
    StatsAgree ⟨⟨m', pre ++ ts ++ post⟩, statsExec (.sweepShard i) e m stats⟩ := by
  cases e <;> try cases h
  case clock now =>
  rcases exec_sweepShard_at h with ⟨hsh, rfl, rfl⟩ | ⟨sh, hsh, rfl, rfl⟩
  · -- no shard `i`: nothing changes
    simp only [statsExec, hsh]
    simpa only [StatsAgree, ShardStats.Agrees, claimed_run_eq h rfl rfl rfl] using hs
  · -- what the sweep removed leaves the active count
    simp only [statsExec, hsh]
    have hcl := shardCount_claimed h hd (.of_eq (claimed_run_eq h rfl rfl rfl))
    have hc := sh.clientCount_cleanupInactive m.heap (m.config.pongWait * 2) now
    refine statsAgree_modify _ hs hsh rfl rfl
      (fun j _ _ _ _ hst => hst.frame (exec_made h rfl j) (hcl j)) fun st ⟨h1, h2, h3⟩ =>
        ⟨?_, h2.trans (congrArg Nat.cast (exec_made h rfl i).symm),
          h3.trans (congrArg Nat.cast (hcl i).symm)⟩
    simp only [ShardStats.cleanupInactive, h1]
    omega

end Steps

/-- **One step keeps the stats counting as the registry and the process say**:
`AddClient` adds the client it makes to the total and the active count of its
shard, `RemoveClient` moves the client it found from the active count to the
disconnections, `CleanupInactive` takes what it removed from the active count,
and no other step changes a count. -/
theorem statsAgree_run {m m' : Manager} {pre post ts : List Thread} {t : Thread} {e : Env}
    {stats : List ShardStats} (h : exec t e m = some (m', ts))
    (hd : DisconnectOnce ⟨m, pre ++ t :: post⟩) (hsid : ShardIDOf m)
    (hs : StatsAgree ⟨⟨m, pre ++ t :: post⟩, stats⟩) :
    StatsAgree ⟨⟨m', pre ++ ts ++ post⟩, statsExec t e m stats⟩ := by
  cases hw : t.writesShard
  · -- no shard written: the same stats, shards and clients made, the claimed up to order
    have ha : t.allocates = false := by cases t <;> first | rfl | cases hw
    rw [statsExec_of_writesShard hw]
    refine ⟨by rw [exec_shards h hw]; exact hs.1, fun i sh st hsh hst => ?_⟩
    exact (hs.2 i sh st (exec_shards h hw ▸ hsh) hst).frame (exec_made h ha i)
      (shardCount_claimed h hd (claimed_run_perm h hd hw) i)
  cases t <;> simp only [Thread.writesShard, reduceCtorEq] at hw
  case addRegister => exact statsAgree_addRegister h hd hs
  case authRegister => exact statsAgree_authRegister h hd hs
  case removeShard => exact statsAgree_removeShard h hd hsid hs
  case sweepShard => exact statsAgree_sweepShard h hd hs

/-- A call writes no shard, no stats and no client. -/
theorem statsAgree_call {m : Manager} {ts : List Thread} {stats : List ShardStats} (c : Call)
    (hs : StatsAgree ⟨⟨m, ts⟩, stats⟩) :
    StatsAgree ⟨⟨(c.start m).1, ts ++ [(c.start m).2]⟩, stats⟩ := by
  have hcl := Sys.claimed_call c m ts
  cases c <;> simpa only [StatsAgree, ShardStats.Agrees, hcl] using hs

theorem statsAgree_init (cfg : Config) : StatsAgree (StatSys.init cfg) := by
  refine ⟨List.length_map _ _, fun i sh st hsh hst => ?_⟩
  obtain ⟨j, -, rfl⟩ := List.mem_map.mp (List.getElem?_mem hsh)
  obtain ⟨-, -, rfl⟩ := List.mem_map.mp (List.getElem?_mem hst)
  refine ⟨by simp [newShard, Shard.clientCount],
    by simp [StatSys.init, init, newManager, shardCount], ?_⟩
  simp [StatSys.init, init, newManager, shardCount, Sys.claimed, Thread.removing]

/-- The invariants the stats rest on, and the stats' own. -/
theorem statReachable_agrees {cfg : Config} {s : StatSys} (hs : StatReachable cfg s) :
    DisconnectOnce s.sys ∧ ShardIDOf s.sys.mgr ∧ StatsAgree s := by
  induction hs with
  | refl =>
    exact ⟨(disconnectOnce_inductive cfg).init, shardIDOf_newManager cfg, statsAgree_init cfg⟩
  | tail _ hst ih =>
    obtain ⟨hd, hsid, hag⟩ := ih
    refine ⟨(disconnectOnce_inductive cfg).step hd hst.step, ?_⟩
    cases hst with
    | call m ts c stats => exact ⟨by cases c <;> exact hsid, statsAgree_call c hag⟩
    | run m m' pre post new t e stats h =>
      exact ⟨shardIDOf_exec h hsid, statsAgree_run h hd hsid hag⟩

/-! ### Where the clients made are -/

/-- Some shard's `clients` map holds `p`. -/
def Manager.holds (m : Manager) (p : Ptr) : Bool :=
  m.shards.any fun sh => sh.clients.entries.any fun e => e.2 = p

theorem Manager.holds_iff {m : Manager} {p : Ptr} : m.holds p = true ↔ ¬m.Unregistered p := by
  simp only [Manager.holds, List.any_eq_true, decide_eq_true_eq, Manager.Unregistered, not_forall,
    not_not, exists_prop]
  constructor
  · rintro ⟨sh, hsh, ⟨k, q⟩, he, rfl⟩
    exact ⟨sh, hsh, k, AList.mem_lookup_iff.mpr he⟩
  · rintro ⟨sh, hsh, k, hk⟩
    exact ⟨sh, hsh, ⟨k, p⟩, AList.mem_lookup_iff.mp hk, rfl⟩

/-- A client some shard holds is one the manager made, held by the shard it was
made for. -/
theorem Manager.holds_shard {m : Manager} (hkb : KeyedBelow m) (hpl : Placed m)
    (hsid : ShardIDOf m) {p : Ptr} (hp : ¬m.Unregistered p) :
    p < m.next ∧ ∃ sh k, m.shards[(m.heap p).shardID]? = some sh ∧ sh.clients.lookup k = some p := by
  simp only [Manager.Unregistered, not_forall, not_not] at hp
  obtain ⟨sh, hsh, k, hk⟩ := hp
  obtain ⟨j, hj⟩ := List.mem_iff_getElem?.mp hsh
  obtain ⟨hlt, hid⟩ := hkb sh hsh k p hk
  refine ⟨hlt, sh, k, ?_, hk⟩
  rw [hsid p hlt, hid, hpl j sh hj k p hk, hj]

/-- The clients made for shard `i` that no shard holds and no `RemoveClient`
took out: those the sweep removed. -/
def Sys.sweptCount (s : Sys) (i : Nat) : Nat :=
  (List.range s.mgr.next).countP fun p => (s.mgr.heap p).shardID = i ∧ !s.mgr.holds p ∧ p ∉ s.claimed

/-- The clients shard `i` holds are the clients made for it that some shard
holds: each under one key, the id that hashes to shard `i`. -/
theorem clientCount_eq_countP {m : Manager} (hkb : KeyedBelow m) (hpl : Placed m)
    (hsid : ShardIDOf m) {i : Nat} {sh : Shard} (hsh : m.shards[i]? = some sh) :
    sh.clientCount = (List.range m.next).countP fun p => (m.heap p).shardID = i ∧ m.holds p := by
  have hmem := List.getElem?_mem hsh
  have hnd : (sh.clients.entries.map (·.2)).Nodup :=
    sh.clients.nodupKeys.nodup.map_on fun e he e' he' hee => by
      have h1 := (hkb sh hmem e.1 e.2 (AList.mem_lookup_iff.mpr he)).2
      have h2 := (hkb sh hmem e'.1 e'.2 (AList.mem_lookup_iff.mpr he')).2
      exact Sigma.ext (h1.symm.trans (hee ▸ h2)) (heq_of_eq hee)
  have hperm : (sh.clients.entries.map (·.2)).Perm
      ((List.range m.next).filter fun p => (m.heap p).shardID = i ∧ m.holds p) := by
    refine (List.perm_ext_iff_of_nodup hnd (List.Nodup.filter _ (List.nodup_range _))).mpr
      fun p => ?_
    simp only [List.mem_map, List.mem_filter, List.mem_range, decide_eq_true_eq, Manager.holds_iff]
    constructor
    · rintro ⟨⟨k, q⟩, he, rfl⟩
      have hk := AList.mem_lookup_iff.mpr he
      obtain ⟨hlt, hid⟩ := hkb sh hmem k q hk
      exact ⟨hlt, by rw [hsid q hlt, hid, hpl i sh hsh k q hk], fun hu => hu sh hmem k hk⟩
    · rintro ⟨-, hi, hreg⟩
      obtain ⟨-, sh', k, hsh', hk⟩ := Manager.holds_shard hkb hpl hsid hreg
      rw [hi, hsh, Option.some.injEq] at hsh'
      subst hsh'
      exact ⟨⟨k, p⟩, AList.mem_lookup_iff.mp hk, rfl⟩
  rw [Shard.clientCount, AList.keys, List.keys, List.length_map, List.countP_eq_length_filter,
    ← hperm.length_eq, List.length_map]

/-- Counting the members of a list of distinct addresses below `n` among the
addresses below `n`. -/
theorem countP_range_mem {A : Ptr → Bool} {l : List Ptr} {n : Nat} (hl : l.Nodup)
    (hlt : ∀ p ∈ l, p < n) : (List.range n).countP (fun p => A p ∧ p ∈ l) = l.countP A := by
  rw [List.countP_eq_length_filter, List.countP_eq_length_filter]
  refine ((List.perm_ext_iff_of_nodup (List.Nodup.filter _ (List.nodup_range n))
    (List.Nodup.filter _ hl)).mpr fun p => ?_).length_eq
  simp only [List.mem_filter, List.mem_range, decide_eq_true_eq]
  exact ⟨fun ⟨_, ha, hp⟩ => ⟨hp, ha⟩, fun ⟨hp, ha⟩ => ⟨hlt p hp, ha, hp⟩⟩

/-- Splitting a count by two tests that no member passes both of. -/
theorem countP_split (A B C : Ptr → Bool) :
    ∀ {L : List Ptr}, (∀ p ∈ L, C p = true → B p = false) →
      L.countP A = L.countP (fun p => A p ∧ B p) + L.countP (fun p => A p ∧ C p) +
        L.countP (fun p => A p ∧ !B p ∧ !C p)
  | [], _ => rfl
  | p :: L, h => by
    simp only [List.countP_cons, countP_split A B C fun q hq => h q (List.mem_cons_of_mem _ hq)]
    have hp := h p (List.mem_cons_self _ _)
    revert hp
    cases A p <;> cases B p <;> cases C p <;> simp <;> omega

/-- **Every client made for a shard is held by it, taken out by
`RemoveClient`, or swept.** -/
theorem made_eq {s : Sys} (hd : DisconnectOnce s) (hsid : ShardIDOf s.mgr) {i : Nat} {sh : Shard}
    (hsh : s.mgr.shards[i]? = some sh) :
    shardCount s.mgr.heap i (List.range s.mgr.next) =
      sh.clientCount + shardCount s.mgr.heap i s.claimed + s.sweptCount i := by
  have hsplit := countP_split (fun p => decide ((s.mgr.heap p).shardID = i)) s.mgr.holds
    (fun p => decide (p ∈ s.claimed)) (L := List.range s.mgr.next) fun p _ hp =>
      Bool.eq_false_iff.mpr fun hh =>
        Manager.holds_iff.mp hh (hd.claimed_gone p (of_decide_eq_true hp)).2
  rw [clientCount_eq_countP hd.keyed hd.placed hsid hsh, shardCount, shardCount,
    ← countP_range_mem hd.nodup fun p hp => (hd.claimed_gone p hp).1, Sys.sweptCount]
  simp only [Bool.decide_and, decide_eq_true_eq, Bool.decide_eq_true, decide_not] at hsplit ⊢
  exact hsplit

/-- `GetStats` reports the counters as kept when each shard's
`ActiveConnections` is its `len(s.clients)`. -/
theorem Manager.getStats_eq {m : Manager} {stats : List ShardStats}
    (hlen : stats.length = m.shards.length)
    (h : ∀ (i : Nat) (sh : Shard) (st : ShardStats), m.shards[i]? = some sh →
      stats[i]? = some st → st.activeConnections = sh.clientCount) :
    m.getStats stats = stats := by
  refine List.ext_getElem? fun i => ?_
  rw [Manager.getStats, List.getElem?_zipWith]
  cases hsh : m.shards[i]? with
  | none =>
    have hst : stats[i]? = none := by
      rw [List.getElem?_eq_none_iff] at hsh ⊢
      omega
    rw [hst]
  | some sh =>
    cases hst : stats[i]? with
    | none => rfl
    | some st => simp only [Shard.getStats, ← h i sh st hsh hst]

/-- **The shards' statistics count what the registry and the process did**: in
every reachable state of the process with its stats, whatever the interleaving
of the calls and the goroutines, every shard has its stats, and
- `ActiveConnections` is `len(s.clients)`, so `GetStats` returns the counters
  as the shards keep them;
- `TotalConnections` is the number of clients `AddConnection` has made for the
  shard;
- `Disconnections` is the number of those `RemoveClient` has taken out of the
  shard: the clients held by a `RemoveClient` past its shard step, and those
  `onDisconnect` was called for;
- so `TotalConnections` is `ActiveConnections` plus `Disconnections` plus the
  clients the sweep removed, which neither counter counts. -/
theorem reachable_shardStats {cfg : Config} {s : StatSys} (hs : StatReachable cfg s) :
    s.stats.length = s.sys.mgr.shards.length ∧ s.sys.mgr.getStats s.stats = s.stats ∧
      ∀ i sh (st : ShardStats), s.sys.mgr.shards[i]? = some sh → s.stats[i]? = some st →
        st.activeConnections = sh.clientCount ∧
          st.totalConnections = shardCount s.sys.mgr.heap i (List.range s.sys.mgr.next) ∧
          st.disconnections = shardCount s.sys.mgr.heap i s.sys.claimed ∧
          st.totalConnections = st.activeConnections + st.disconnections + s.sys.sweptCount i := by
  obtain ⟨hd, hsid, hlen, hag⟩ := statReachable_agrees hs
  refine ⟨hlen, Manager.getStats_eq hlen fun i sh st hsh hst => (hag i sh st hsh hst).1,
    fun i sh st hsh hst => ?_⟩
  obtain ⟨h1, h2, h3⟩ := hag i sh st hsh hst
  refine ⟨h1, h2, h3, ?_⟩
  rw [h1, h2, h3, made_eq hd hsid hsh]
  push_cast
  ring

/-! ### A concrete run -/

/-- The state with stats after a move, if the move can be made. -/
def StatSys.move (s : StatSys) : Move → Option StatSys
  | .call c => (s.sys.move (.call c)).map fun s' => ⟨s', s.stats⟩
  | .run i e =>
    match s.sys.threads[i]? with
    | none => none
    | some t => (s.sys.move (.run i e)).map fun s' => ⟨s', statsExec t e s.sys.mgr s.stats⟩

def StatSys.moves (s : StatSys) : List Move → Option StatSys
  | [] => some s
  | mv :: mvs => (s.move mv).bind (·.moves mvs)

theorem StatSys.step_of_move {s s' : StatSys} {mv : Move} (h : s.move mv = some s') :
    StatStep s s' := by
  obtain ⟨⟨m, ts⟩, stats⟩ := s
  cases mv with
  | call c => cases h; exact .call m ts c stats
  | run i e =>
    simp only [StatSys.move, Sys.move] at h
    split at h
    · cases h
    · next t ht =>
      simp only [ht, Option.map_map] at h
      obtain ⟨⟨m', new⟩, hx, rfl⟩ := Option.map_eq_some'.mp h
      have hts : ts = ts.take i ++ t :: ts.drop (i + 1) := by
        rw [List.getElem?_eq_some_iff] at ht
        obtain ⟨hi, rfl⟩ := ht
        simp
      have hst := StatStep.run m m' (ts.take i) (ts.drop (i + 1)) new t e stats hx
      rwa [← hts] at hst

theorem StatSys.reach_of_moves {s : StatSys} :
    ∀ {mvs : List Move} {s' : StatSys}, s.moves mvs = some s' →
      Relation.ReflTransGen StatStep s s'
  | [], _, h => by cases h; exact .refl
  | mv :: mvs, s', h => by
    obtain ⟨s₁, h₁, h₂⟩ := Option.bind_eq_some.mp h
    exact .head (StatSys.step_of_move h₁) (StatSys.reach_of_moves h₂)

/-- The state with stats a concrete run from `StatSys.init cfg` ends in. -/
def statRunOf (cfg : Config) (mvs : List Move) : StatSys :=
  ((StatSys.init cfg).moves mvs).getD (StatSys.init cfg)

theorem statReachable_statRunOf {cfg : Config} {mvs : List Move}
    (h : ((StatSys.init cfg).moves mvs).isSome) : StatReachable cfg (statRunOf cfg mvs) := by
  obtain ⟨s, hs⟩ := Option.isSome_iff_exists.mp h
  rw [statRunOf, hs]
  exact StatSys.reach_of_moves hs

/-- One client connected at time 0, and the sweep at 200 s, past
`PongWait * 2`, removing it. -/
def sweptRun : StatSys :=
  statRunOf smallConfig (addConnectionMoves 1 "10.0.0.1" "c1" 0 ++
    [.run 0 (.tick true), .run 0 (.clock (200 * 10 ^ 9))])

theorem reachable_shardStats_swept :
    StatReachable smallConfig sweptRun ∧
      sweptRun.stats = [{ totalConnections := 1, lastCleanup := 200 * 10 ^ 9 }] ∧
      sweptRun.sys.sweptCount 0 = 1 ∧
      (sweptRun.stats.length = sweptRun.sys.mgr.shards.length ∧
        sweptRun.sys.mgr.getStats sweptRun.stats = sweptRun.stats ∧
        ∀ i sh (st : ShardStats), sweptRun.sys.mgr.shards[i]? = some sh →
          sweptRun.stats[i]? = some st →
          st.activeConnections = sh.clientCount ∧
            st.totalConnections =
              shardCount sweptRun.sys.mgr.heap i (List.range sweptRun.sys.mgr.next) ∧
            st.disconnections = shardCount sweptRun.sys.mgr.heap i sweptRun.sys.claimed ∧
            st.totalConnections =
              st.activeConnections + st.disconnections + sweptRun.sys.sweptCount i) :=
  have hs : StatReachable smallConfig sweptRun := statReachable_statRunOf rfl
  ⟨hs, by decide, by decide, reachable_shardStats hs⟩

end Connection
end Gateway
