import Gateway.Connection.System

/-
# The two indexes of a shard

A shard indexes its clients twice: by client id in `clients`, and by user
and device in `userClients`. `RegisterAuthenticatedClient` adds the entry of
the pair it is given and removes none; `RemoveClient` and the sweep remove
the entry of the pair the client's fields name at that moment.

What holds in every run: no user's device map is ever empty
(`reachable_noEmptyDevices`), since a device map is made with an entry and
dropped when its last entry goes.

What does not: the second index can point at a client the first one no
longer holds. A client authenticated twice, under two pairs, keeps its
first entry after it is removed, because removal reads only its current
pair (`userClients_dangling`). And `AuthenticateClient` supersedes nothing:
from any state, its calls and steps, interleaved as they may be, change no
`clients` map, close no client, count no connection down and call no hook
(`authenticateClient_supersedes_nothing`), so two live clients can be
authenticated as one user and device (`two_sessions_one_device`).

Key definitions: `AuthStep`. Key theorems: `reachable_noEmptyDevices`,
`userClients_dangling`, `authenticateClient_supersedes_nothing`,
`two_sessions_one_device`.
-/

namespace Gateway
namespace Connection

/-! ### Device maps are never empty -/

/-- No user's map of devices is empty. -/
def DevicesNonEmpty (uc : UserMap) : Prop :=
  ∀ u devices, uc.lookup u = some devices → devices.keys ≠ []

theorem devicesNonEmpty_dropUserMapping {uc : UserMap} (h : DevicesNonEmpty uc) (c : Client) :
    DevicesNonEmpty (dropUserMapping uc c) := by
  unfold dropUserMapping
  split_ifs with hu
  · split
    · next devices _ =>
      dsimp only
      split_ifs with he
      · intro u ds hds
        by_cases hv : u = c.userID
        · subst hv; rw [AList.lookup_erase] at hds; cases hds
        · rw [AList.lookup_erase_ne hv] at hds; exact h u ds hds
      · intro u ds hds
        by_cases hv : u = c.userID
        · subst hv; rw [AList.lookup_insert] at hds; cases hds; exact he
        · rw [AList.lookup_insert_ne hv] at hds; exact h u ds hds
    · exact h
  · exact h

theorem devicesNonEmpty_cleanupInactive {s : Shard} (h : DevicesNonEmpty s.userClients)
    (heap : Ptr → Client) (timeout now : Int) :
    DevicesNonEmpty (s.cleanupInactive heap timeout now).1.userClients := by
  unfold Shard.cleanupInactive
  suffices ∀ (es : List (Σ _ : String, Ptr)) (acc : Shard × List String),
      DevicesNonEmpty acc.1.userClients →
        DevicesNonEmpty (es.foldl (sweepEntry heap timeout now) acc).1.userClients from
    this _ _ h
  intro es
  induction es with
  | nil => exact fun _ h => h
  | cons e es ih =>
    intro acc hacc
    rw [List.foldl_cons]
    apply ih
    by_cases hc : now - (heap e.2).lastActivity > timeout
    · rw [sweepEntry_pos _ hc]; exact devicesNonEmpty_dropUserMapping hacc _
    · rw [sweepEntry_neg _ hc]; exact hacc

theorem devicesNonEmpty_register {s : Shard} (h : DevicesNonEmpty s.userClients)
    (heap : Ptr → Client) (p : Ptr) (userID deviceID : String) :
    DevicesNonEmpty (s.registerAuthenticatedClient heap p userID deviceID).1.userClients := by
  intro u ds hds
  simp only [Shard.registerAuthenticatedClient] at hds
  by_cases hv : u = userID
  · subst hv
    rw [AList.lookup_insert] at hds
    cases hds
    simp [AList.keys_insert]
  · rw [AList.lookup_insert_ne hv] at hds; exact h u ds hds

/-- Every shard's device maps are non-empty. -/
def NoEmptyDevices (m : Manager) : Prop := ∀ sh ∈ m.shards, DevicesNonEmpty sh.userClients

theorem noEmptyDevices_set {m : Manager} (hm : NoEmptyDevices m) {i : Nat} {sh : Shard}
    (h : DevicesNonEmpty sh.userClients) : ∀ sh' ∈ m.shards.set i sh, DevicesNonEmpty sh'.userClients :=
  fun _ hs => (List.mem_or_eq_of_mem_set hs).elim (hm _) fun h' => h' ▸ h

theorem noEmptyDevices_exec {t : Thread} {e : Env} {m m' : Manager} {ts : List Thread}
    (h : exec t e m = some (m', ts)) (hm : NoEmptyDevices m) : NoEmptyDevices m' := by
  cases hw : t.writesShard
  · rw [NoEmptyDevices, exec_shards h hw]; exact hm
  · cases t <;> simp only [Thread.writesShard, reduceCtorEq] at hw
    case addRegister ip =>
      obtain ⟨clientID, now, s, -, hs, rfl, rfl⟩ := exec_addRegister h
      exact noEmptyDevices_set hm (hm s (List.getElem?_mem hs))
    case authRegister i p userID deviceID =>
      obtain ⟨s, hs, rfl, rfl⟩ := exec_authRegister h
      exact noEmptyDevices_set hm (devicesNonEmpty_register (hm s (List.getElem?_mem hs)) _ _ _ _)
    case removeShard clientID reason pump =>
      obtain ⟨s, hs, rfl, rfl⟩ := exec_removeShard h
      refine noEmptyDevices_set hm ?_
      unfold Shard.removeClient
      split
      · exact hm s (List.getElem?_mem hs)
      · exact devicesNonEmpty_dropUserMapping (hm s (List.getElem?_mem hs)) _
    case sweepShard i =>
      rcases exec_sweepShard h with ⟨-, rfl, rfl⟩ | ⟨now, s, hs, rfl, rfl⟩
      · exact hm
      · exact noEmptyDevices_set hm
          (devicesNonEmpty_cleanupInactive (hm s (List.getElem?_mem hs)) _ _ _)

/-- **No `userClients[u]` is an empty map**, in every reachable state. -/
theorem reachable_noEmptyDevices {cfg : Config} {s : Sys} (hs : Reachable cfg s) :
    NoEmptyDevices s.mgr := by
  refine (Inductive.of_mgr (P := NoEmptyDevices) ?_ (fun c m hm => by cases c <;> exact hm)
    noEmptyDevices_exec).reachable hs
  intro sh hsh
  obtain ⟨i, -, rfl⟩ := List.mem_map.mp hsh
  simp [DevicesNonEmpty, newShard]

theorem noEmptyDevices_afterAddOne :
    Reachable smallConfig (runOf smallConfig (addConnectionMoves 1 "10.0.0.1" "c1" 0 ++
      authenticateMoves 3 "c1" "u1" "d1")) ∧
    NoEmptyDevices (runOf smallConfig (addConnectionMoves 1 "10.0.0.1" "c1" 0 ++
      authenticateMoves 3 "c1" "u1" "d1")).mgr :=
  have hs : Reachable smallConfig (runOf smallConfig (addConnectionMoves 1 "10.0.0.1" "c1" 0 ++
      authenticateMoves 3 "c1" "u1" "d1")) := reachable_runOf rfl
  ⟨hs, reachable_noEmptyDevices hs⟩

/-! ### An entry that outlives its client -/

/-- One client, authenticated as `u1`/`d1` and then as `u2`/`d2`, then removed. -/
def danglingRun : List Move :=
  addConnectionMoves 1 "10.0.0.1" "c1" 0 ++ authenticateMoves 3 "c1" "u1" "d1" ++
    authenticateMoves 3 "c1" "u2" "d2" ++ removeMoves 3 "c1" "logout"

theorem userClients_dangling :
    Reachable smallConfig (runOf smallConfig danglingRun) ∧
      ∃ sh ∈ (runOf smallConfig danglingRun).mgr.shards,
        (sh.userClients.lookup "u1").bind (·.lookup "d1") = some 0 ∧
        0 ∉ sh.clients.entries.map (·.2) ∧
        sh.getUserClients "u1" = [0] ∧
        ((runOf smallConfig danglingRun).mgr.heap 0).closing = true :=
  ⟨reachable_runOf rfl, by decide⟩

/-! ### No session is superseded -/

/-- The goroutines of `AuthenticateClient`. -/
def Thread.authenticates : Thread → Bool
  | .authLookup .. | .authAllow .. | .authRegister .. => true
  | _ => false

/-- A step of `AuthenticateClient`: a call of it, or a step of one of its
goroutines, whatever else runs beside them. -/
inductive AuthStep : Sys → Sys → Prop
  | call (m : Manager) (ts : List Thread) (clientID userID deviceID : String) :
      AuthStep ⟨m, ts⟩ ⟨(Call.start (.authenticateClient clientID userID deviceID) m).1,
        ts ++ [(Call.start (.authenticateClient clientID userID deviceID) m).2]⟩
  | run (m m' : Manager) (pre post new : List Thread) (t : Thread) (e : Env) :
      t.authenticates = true → exec t e m = some (m', new) →
      AuthStep ⟨m, pre ++ t :: post⟩ ⟨m', pre ++ new ++ post⟩

theorem AuthStep.step {s s' : Sys} : AuthStep s s' → Step s s'
  | .call m ts clientID userID deviceID => .call m ts (.authenticateClient clientID userID deviceID)
  | .run m m' pre post new t e _ h => .run m m' pre post new t e h

/-- `RegisterAuthenticatedClient` keeps the `clients` map of every shard. -/
theorem clients_set_registerAuthenticatedClient {shards : List Shard} {i : Nat} {s : Shard}
    (hs : shards[i]? = some s) (heap : Ptr → Client) (p : Ptr) (userID deviceID : String) :
    (shards.set i (s.registerAuthenticatedClient heap p userID deviceID).1).map (·.clients) =
      shards.map (·.clients) := by
  obtain ⟨hi, rfl⟩ := List.getElem?_eq_some_iff.mp hs
  refine List.ext_getElem? fun j => ?_
  by_cases hj : i = j
  · subst hj; simp [hi]
  · simp [List.getElem?_set_ne hj]

/-- A step of `AuthenticateClient` removes no client from a shard, closes
none, and neither counts a connection down nor calls the hook. -/
theorem AuthStep.keeps {s s' : Sys} (h : AuthStep s s') :
    s'.mgr.shards.map (·.clients) = s.mgr.shards.map (·.clients) ∧
      (∀ q, (s'.mgr.heap q).closing = (s.mgr.heap q).closing) ∧
      s'.mgr.globalConns = s.mgr.globalConns ∧ s'.mgr.disconnects = s.mgr.disconnects := by
  cases h with
  | call => exact ⟨rfl, fun _ => rfl, rfl, rfl⟩
  | run m m' pre post new t e ht hx =>
    cases exec_sound hx <;> simp only [Thread.authenticates, reduceCtorEq] at ht
    case authRegister i p userID deviceID s hs =>
      refine ⟨clients_set_registerAuthenticatedClient hs m.heap p userID deviceID, fun q => ?_,
        rfl, rfl⟩
      by_cases hq : q = p <;> simp [Shard.registerAuthenticatedClient, Function.update_apply, hq]
    all_goals exact ⟨rfl, fun _ => rfl, rfl, rfl⟩

theorem authenticateClient_supersedes_nothing {s s' : Sys}
    (h : Relation.ReflTransGen AuthStep s s') :
    s'.mgr.shards.map (·.clients) = s.mgr.shards.map (·.clients) ∧
      (∀ q, (s'.mgr.heap q).closing = (s.mgr.heap q).closing) ∧
      s'.mgr.globalConns = s.mgr.globalConns ∧ s'.mgr.disconnects = s.mgr.disconnects := by
  induction h with
  | refl => exact ⟨rfl, fun _ => rfl, rfl, rfl⟩
  | tail _ hst ih =>
    obtain ⟨h₁, h₂, h₃, h₄⟩ := hst.keeps
    exact ⟨h₁.trans ih.1, fun q => (h₂ q).trans (ih.2.1 q), h₃.trans ih.2.2.1, h₄.trans ih.2.2.2⟩

/-- Client `c1` authenticated as `u1`/`d1`, and client `c2` connected. -/
def oneSessionRun : List Move :=
  addConnectionMoves 1 "10.0.0.1" "c1" 0 ++ addConnectionMoves 3 "10.0.0.2" "c2" 0 ++
    authenticateMoves 5 "c1" "u1" "d1"

theorem authenticateClient_supersedes_nothing_c2 :
    ∃ s', Relation.ReflTransGen AuthStep ⟨(runOf smallConfig oneSessionRun).mgr, []⟩ s' ∧
      s'.threads = [] ∧
      (s'.mgr.shards.map (·.clients) = (runOf smallConfig oneSessionRun).mgr.shards.map (·.clients) ∧
        (∀ q, (s'.mgr.heap q).closing = ((runOf smallConfig oneSessionRun).mgr.heap q).closing) ∧
        s'.mgr.globalConns = (runOf smallConfig oneSessionRun).mgr.globalConns ∧
        s'.mgr.disconnects = (runOf smallConfig oneSessionRun).mgr.disconnects) :=
  have h : Relation.ReflTransGen AuthStep ⟨(runOf smallConfig oneSessionRun).mgr, []⟩ ⟨_, []⟩ :=
    .tail (.tail (.tail (.single (.call _ [] "c2" "u1" "d1"))
      (.run _ _ [] [] [.authAllow 0 1 "u1" "d1"] (.authLookup "c2" "u1" "d1") .quiet rfl rfl))
      (.run _ _ [] [] [.authRegister 0 1 "u1" "d1"] (.authAllow 0 1 "u1" "d1") (.allow true) rfl
        rfl))
      (.run _ _ [] [] [] (.authRegister 0 1 "u1" "d1") .quiet rfl rfl)
  ⟨_, h, rfl,
    authenticateClient_supersedes_nothing (s := ⟨(runOf smallConfig oneSessionRun).mgr, []⟩) h⟩

/-- Two clients, both authenticated as `u1`/`d1`. -/
def sameDeviceRun : List Move :=
  addConnectionMoves 1 "10.0.0.1" "c1" 0 ++ addConnectionMoves 3 "10.0.0.2" "c2" 0 ++
    authenticateMoves 5 "c1" "u1" "d1" ++ authenticateMoves 5 "c2" "u1" "d1"

theorem two_sessions_one_device :
    Reachable smallConfig (runOf smallConfig sameDeviceRun) ∧
      (∃ sh ∈ (runOf smallConfig sameDeviceRun).mgr.shards,
        sh.clients.lookup "c1" = some 0 ∧ sh.clients.lookup "c2" = some 1) ∧
      (∀ p ∈ [0, 1], ((runOf smallConfig sameDeviceRun).mgr.heap p).authenticated = true ∧
        ((runOf smallConfig sameDeviceRun).mgr.heap p).userID = "u1" ∧
        ((runOf smallConfig sameDeviceRun).mgr.heap p).deviceID = "d1" ∧
        ((runOf smallConfig sameDeviceRun).mgr.heap p).closing = false) ∧
      (runOf smallConfig sameDeviceRun).mgr.disconnects = [] :=
  ⟨reachable_runOf rfl, by decide, by decide, by decide⟩

/-! ### Removal goes by key -/

/-- Two sessions on one device, then `RemoveClient` of the older one. -/
def staleRemovalRun : List Move := sameDeviceRun ++ removeMoves 5 "c1" "logout"

/-- **Removing a superseded session unindexes the live one.** Before
`RemoveClient("c1")`, `userClients["u1"]["d1"]` holds `c2`; after it, `c2` is
still present, authenticated as `u1`/`d1` and open, but no `userClients`
entry holds it. -/
theorem removeClient_unindexes_survivor :
    Reachable smallConfig (runOf smallConfig staleRemovalRun) ∧
      (∃ sh ∈ (runOf smallConfig sameDeviceRun).mgr.shards,
        sh.clients.lookup "c1" = some 0 ∧ entryOf sh.userClients "u1" "d1" = some 1) ∧
      (∃ sh ∈ (runOf smallConfig staleRemovalRun).mgr.shards,
        sh.clients.lookup "c1" = none ∧ sh.clients.lookup "c2" = some 1 ∧
        entryOf sh.userClients "u1" "d1" = none ∧ sh.getUserClients "u1" = []) ∧
      ((runOf smallConfig staleRemovalRun).mgr.heap 1).authenticated = true ∧
      ((runOf smallConfig staleRemovalRun).mgr.heap 1).holds "u1" "d1" ∧
      ((runOf smallConfig staleRemovalRun).mgr.heap 1).closing = false :=
  ⟨reachable_runOf rfl, by decide, by decide, by decide, by decide, by decide⟩

end Connection
end Gateway
