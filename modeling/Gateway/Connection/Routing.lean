import Gateway.Connection.System

/-
# Finding a client by its id

Every call that names a client by id (`GetClient`, `AuthenticateClient`,
`SendToClient`, `RemoveClient`) looks in one shard only, the one
`getShardID` hashes the id to. That is enough because `AddConnection` puts
each client in the shard `getShardID` gives for its id, and no step moves an
entry: in every reachable state every key of a shard's `clients` map hashes
to that shard (`Placed`). So the lookup in one shard finds exactly what a
search of every shard would, and the client it finds is under no other key
of any shard (`reachable_getClient`).

Key definitions: `Manager.getClient`, `Placed`. Key theorem:
`reachable_getClient`.
-/

namespace Gateway
namespace Connection

/-- `GetClient(clientID)`: the lookup in the shard `getShardID` names; `none`
where Go would index `m.shards` out of range and panic. -/
def Manager.getClient (m : Manager) (clientID : String) : Option Ptr :=
  (m.shards[m.getShardID clientID]?).bind (·.getClient clientID)

/-- Every key of shard `i`'s `clients` map hashes to shard `i`. -/
def Placed (m : Manager) : Prop :=
  ∀ i sh, m.shards[i]? = some sh → ∀ k p, sh.clients.lookup k = some p → m.getShardID k = i

section Step

variable {t : Thread} {e : Env} {m m' : Manager} {ts : List Thread}

/-- No step changes where an id hashes to. -/
theorem exec_getShardID (h : exec t e m = some (m', ts)) : m'.getShardID = m.getShardID := by
  funext k
  simp only [Manager.getShardID, (exec_frame h).2.2.2.2.2.1]

/-- An entry a step did not make was there before: a key in the shards after a
step that makes no client is a key of the same shard before. -/
theorem exec_entry_old (h : exec t e m = some (m', ts)) (hkb : KeyedBelow m)
    (ha : t.allocates = false) {j : Nat} {sh' : Shard} {k : String} {p : Ptr}
    (hj : m'.shards[j]? = some sh') (hp : sh'.clients.lookup k = some p) :
    ∃ sh, m.shards[j]? = some sh ∧ sh.clients.lookup k = some p := by
  rcases exec_entry h hj hp with hold | hfresh
  · exact hold
  · obtain ⟨hlt, hid⟩ := keyedBelow_exec h hkb sh' (List.getElem?_mem hj) k p hp
    rw [exec_next h ha] at hlt
    rw [exec_heap_id h (Nat.ne_of_lt hlt)] at hid
    rw [issued_iff.mpr ⟨p, hlt, hid⟩] at hfresh
    cases hfresh

theorem placed_exec (h : exec t e m = some (m', ts)) (hkb : KeyedBelow m) (hm : Placed m) :
    Placed m' := by
  intro j sh' hj k p hp
  rw [exec_getShardID h]
  cases ha : t.allocates
  · obtain ⟨sh, hs, hp'⟩ := exec_entry_old h hkb ha hj hp
    exact hm j sh hs k p hp'
  · cases t <;> simp only [Thread.allocates, reduceCtorEq] at ha
    case addRegister ip =>
      obtain ⟨clientID, now, s, -, hs, rfl, rfl⟩ := exec_addRegister h
      rcases getElem?_set_cases hj with ⟨rfl, rfl⟩ | hj
      · by_cases hk : k = clientID
        · rw [hk]
        · have hid : (m.withClient ip clientID now m.next).id = clientID := by
            simp [Manager.withClient, newClient]
          rw [Shard.addClient, hid, AList.lookup_insert_ne hk] at hp
          exact hm _ s hs k p hp
      · exact hm j sh' hj k p hp

end Step

theorem placed_newManager (cfg : Config) : Placed (newManager cfg) := by
  intro i sh hs k p hp
  obtain ⟨j, -, rfl⟩ := List.mem_map.mp (List.getElem?_mem hs)
  simp [newShard] at hp

theorem placed_inductive (cfg : Config) :
    Inductive cfg fun s => KeyedBelow s.mgr ∧ Placed s.mgr :=
  Inductive.of_mgr (P := fun m => KeyedBelow m ∧ Placed m) ⟨keyedBelow_newManager cfg, placed_newManager cfg⟩
    (fun c m hm => by cases c <;> exact hm)
    fun h hm => ⟨keyedBelow_exec h hm.1, placed_exec h hm.1 hm.2⟩

/-- **The lookup by id finds the one registered client with that id**: in every
reachable state, the lookup `GetClient(clientID)` makes in the one shard
`getShardID(clientID)` names finds a client exactly when some shard holds one
under `clientID`, and that client is under no other key of any shard. So
`AuthenticateClient`, `SendToClient` and `RemoveClient`, which look up the
same way, never miss a registered client for hashing to one shard. -/
theorem reachable_getClient {cfg : Config} {s : Sys} (hs : Reachable cfg s) (clientID : String)
    (p : Ptr) :
    (s.mgr.getClient clientID = some p ↔ ∃ sh ∈ s.mgr.shards, sh.clients.lookup clientID = some p) ∧
      (s.mgr.getClient clientID = some p →
        ∀ j sh k, s.mgr.shards[j]? = some sh → sh.clients.lookup k = some p →
          j = s.mgr.getShardID clientID ∧ k = clientID) := by
  obtain ⟨hkb, hpl⟩ := (placed_inductive cfg).reachable hs
  have hfound : s.mgr.getClient clientID = some p ↔
      ∃ sh, s.mgr.shards[s.mgr.getShardID clientID]? = some sh ∧ sh.clients.lookup clientID = some p :=
    Option.bind_eq_some
  refine ⟨hfound.trans ⟨fun ⟨sh, hs, hp⟩ => ⟨sh, List.getElem?_mem hs, hp⟩, fun ⟨sh, hmem, hp⟩ => ?_⟩,
    fun hget j sh k hj hk => ?_⟩
  · obtain ⟨j, hj⟩ := List.mem_iff_getElem?.mp hmem
    exact ⟨sh, hpl j sh hj clientID p hp ▸ hj, hp⟩
  · obtain ⟨sh₀, hs₀, hp₀⟩ := hfound.mp hget
    have hkey : k = clientID :=
      (hkb sh (List.getElem?_mem hj) k p hk).2.symm.trans
        (hkb sh₀ (List.getElem?_mem hs₀) clientID p hp₀).2
    subst hkey
    exact ⟨(hpl j sh hj k p hk).symm, rfl⟩

/-- One client connected to a manager of four shards. -/
def oneOfFour : Sys :=
  runOf { smallConfig with shardCount := 4 } (addConnectionMoves 1 "10.0.0.1" "c1" 0)

theorem reachable_getClient_oneOfFour :
    Reachable { smallConfig with shardCount := 4 } oneOfFour ∧ oneOfFour.mgr.shards.length = 4 ∧
      oneOfFour.mgr.getClient "c1" = some 0 ∧
      ((oneOfFour.mgr.getClient "c1" = some 0 ↔
          ∃ sh ∈ oneOfFour.mgr.shards, sh.clients.lookup "c1" = some 0) ∧
        (oneOfFour.mgr.getClient "c1" = some 0 →
          ∀ j sh k, oneOfFour.mgr.shards[j]? = some sh → sh.clients.lookup k = some 0 →
            j = oneOfFour.mgr.getShardID "c1" ∧ k = "c1")) :=
  have hs : Reachable { smallConfig with shardCount := 4 } oneOfFour := reachable_runOf rfl
  ⟨hs, by decide, by decide, reachable_getClient hs "c1" 0⟩

end Connection
end Gateway
