import Gateway.Connection.Client

/-
# A shard of the registry

A `Shard` keeps two maps under its lock: `clients`, from client id to
client, and `userClients`, from user id to device id to client. Clients are
pointers into the heap the manager owns; an operation that reads a client's
fields takes the heap, and `RegisterAuthenticatedClient`, which writes them,
returns it.

`RemoveClient` and the loop of `CleanupInactive` drop a client the same way
(`Shard.unlink`): its entry in `clients`, and the entry of the user and
device its fields name in `userClients`, with the user's map when it
empties. `RegisterAuthenticatedClient` adds an entry and removes none.

Go's `range` over `s.clients` visits the entries in some order; the model
visits them in the order of the association list. Deleting the entry being
visited does not stop the others from being visited, so the loop is a fold
over the entries `CleanupInactive` starts with.

Key definitions: `Shard.removeClient`, `Shard.registerAuthenticatedClient`,
`Shard.cleanupInactive`. Key theorems: `Shard.clientCount_cleanupInactive`.
-/

namespace Gateway
namespace Connection

/-- `map[string]*Client`. -/
abbrev ClientMap := AList fun _ : String => Ptr

/-- `map[string]map[string]*Client`: user id, then device id. -/
abbrev UserMap := AList fun _ : String => ClientMap

/-- The fields of `Shard` the registry reads; `stats` and the logger are left out. -/
structure Shard where
  id : Nat
  clients : ClientMap
  userClients : UserMap

/-- `NewShard(id, logger)`. -/
def newShard (id : Nat) : Shard := { id, clients := ∅, userClients := ∅ }

/-- `len(s.clients)`. -/
def Shard.clientCount (s : Shard) : Nat := s.clients.keys.length

/-- `AddClient(client)`. -/
def Shard.addClient (s : Shard) (heap : Ptr → Client) (p : Ptr) : Shard :=
  { s with clients := s.clients.insert (heap p).id p }

/-- The user mapping once client `c` has left: the entry of its device goes, and
the user's map with it when that empties. -/
def dropUserMapping (userClients : UserMap) (c : Client) : UserMap :=
  if c.userID ≠ "" then
    match userClients.lookup c.userID with
    | some devices =>
      let devices := devices.erase c.deviceID
      if devices.keys = [] then userClients.erase c.userID
      else userClients.insert c.userID devices
    | none => userClients
  else userClients

/-- The shard once the client `c`, under key `clientID`, has left it. -/
def Shard.unlink (s : Shard) (clientID : String) (c : Client) : Shard :=
  { s with clients := s.clients.erase clientID,
           userClients := dropUserMapping s.userClients c }

/-- `RemoveClient(clientID)`: the shard, and the client it removed. -/
def Shard.removeClient (s : Shard) (heap : Ptr → Client) (clientID : String) :
    Shard × Option Ptr :=
  match s.clients.lookup clientID with
  | none => (s, none)
  | some p => (s.unlink clientID (heap p), some p)

/-- `GetClient(clientID)`. -/
def Shard.getClient (s : Shard) (clientID : String) : Option Ptr := s.clients.lookup clientID

/-- `GetUserClients(userID)`. -/
def Shard.getUserClients (s : Shard) (userID : String) : List Ptr :=
  match s.userClients.lookup userID with
  | none => []
  | some devices => devices.entries.map (·.2)

/-- `RegisterAuthenticatedClient(client, userID, deviceID)`: the shard and the heap. -/
def Shard.registerAuthenticatedClient (s : Shard) (heap : Ptr → Client) (p : Ptr)
    (userID deviceID : String) : Shard × (Ptr → Client) :=
  let devices := (s.userClients.lookup userID).getD ∅
  ({ s with userClients := s.userClients.insert userID (devices.insert deviceID p) },
    Function.update heap p ((heap p).setAuthenticated userID deviceID))

/-- One entry of the loop of `CleanupInactive`: a client idle for longer than
`timeout` leaves, and its id is recorded. -/
def sweepEntry (heap : Ptr → Client) (timeout now : Int) (acc : Shard × List String)
    (e : Σ _ : String, Ptr) : Shard × List String :=
  if now - (heap e.2).lastActivity > timeout then (acc.1.unlink e.1 (heap e.2), acc.2 ++ [e.1])
  else acc

/-- `CleanupInactive(timeout)` at time `now`: the shard, and the ids it removed. -/
def Shard.cleanupInactive (s : Shard) (heap : Ptr → Client) (timeout now : Int) :
    Shard × List String :=
  s.clients.entries.foldl (sweepEntry heap timeout now) (s, [])

theorem sweepEntry_pos {heap : Ptr → Client} {timeout now : Int} (acc : Shard × List String)
    {e : Σ _ : String, Ptr} (h : now - (heap e.2).lastActivity > timeout) :
    sweepEntry heap timeout now acc e = (acc.1.unlink e.1 (heap e.2), acc.2 ++ [e.1]) := if_pos h

theorem sweepEntry_neg {heap : Ptr → Client} {timeout now : Int} (acc : Shard × List String)
    {e : Σ _ : String, Ptr} (h : ¬now - (heap e.2).lastActivity > timeout) :
    sweepEntry heap timeout now acc e = acc := if_neg h

/-! ### Counting clients -/

theorem Shard.clientCount_addClient {s : Shard} (heap : Ptr → Client) (p : Ptr)
    (h : (heap p).id ∉ s.clients) : (s.addClient heap p).clientCount = s.clientCount + 1 := by
  simp only [Shard.clientCount, Shard.addClient, AList.keys_insert, List.length_cons,
    List.erase_of_not_mem (AList.mem_keys.not.mp h)]

theorem Shard.clientCount_unlink {s : Shard} {k : String} (c : Client) (h : k ∈ s.clients) :
    (s.unlink k c).clientCount + 1 = s.clientCount := by
  have hk : k ∈ s.clients.keys := AList.mem_keys.mp h
  have hpos : 0 < s.clients.keys.length := List.length_pos_of_mem hk
  simp only [Shard.clientCount, Shard.unlink, AList.keys_erase, List.length_erase_of_mem hk]
  omega

theorem Shard.unlink_clients (s : Shard) (k : String) (c : Client) :
    (s.unlink k c).clients = s.clients.erase k := rfl

/-- The sweep removes exactly as many clients as it reports, for any entries
still present. -/
theorem foldl_sweepEntry_count (heap : Ptr → Client) (timeout now : Int) :
    ∀ (es : List (Σ _ : String, Ptr)) (acc : Shard × List String),
      (es.map (·.1)).Nodup → (∀ e ∈ es, e.1 ∈ acc.1.clients) →
      (es.foldl (sweepEntry heap timeout now) acc).1.clientCount +
        (es.foldl (sweepEntry heap timeout now) acc).2.length =
      acc.1.clientCount + acc.2.length
  | [], _, _, _ => rfl
  | e :: es, acc, hnd, hmem => by
    rw [List.map_cons, List.nodup_cons] at hnd
    have hrest : ∀ e' ∈ es, e'.1 ≠ e.1 := fun e' he' h =>
      hnd.1 (h ▸ List.mem_map_of_mem (·.1) he')
    rw [List.foldl_cons]
    by_cases hc : now - (heap e.2).lastActivity > timeout
    · rw [sweepEntry_pos _ hc, foldl_sweepEntry_count heap timeout now es _ hnd.2 fun e' he' =>
        AList.mem_erase.mpr ⟨hrest e' he', hmem e' (List.mem_cons_of_mem _ he')⟩]
      have := Shard.clientCount_unlink (heap e.2) (hmem e (List.mem_cons_self _ _))
      simp only [List.length_append, List.length_singleton]
      omega
    · rw [sweepEntry_neg _ hc]
      exact foldl_sweepEntry_count heap timeout now es _ hnd.2
        fun e' he' => hmem e' (List.mem_cons_of_mem _ he')

/-- **`CleanupInactive` reports every client it removes, once.** -/
theorem Shard.clientCount_cleanupInactive (s : Shard) (heap : Ptr → Client) (timeout now : Int) :
    (s.cleanupInactive heap timeout now).1.clientCount +
      (s.cleanupInactive heap timeout now).2.length = s.clientCount :=
  foldl_sweepEntry_count heap timeout now _ (s, []) s.clients.keys_nodup
    fun _ he => AList.mem_keys.mpr (List.mem_map_of_mem _ he)

/-! ### What a removal deletes

`RemoveClient` and the sweep delete the `userClients` entry at the pair the
removed client's fields name, whatever client that entry holds: removal goes
by the key, not by the value. -/

/-- `s.userClients[userID][deviceID]`. -/
def entryOf (uc : UserMap) (userID deviceID : String) : Option Ptr :=
  (uc.lookup userID).bind (·.lookup deviceID)

/-- The fields of client `c` name the pair `userID`, `deviceID`, and `UserID != ""`. -/
def Client.holds (c : Client) (userID deviceID : String) : Prop :=
  c.userID ≠ "" ∧ c.userID = userID ∧ c.deviceID = deviceID

instance (c : Client) (userID deviceID : String) : Decidable (c.holds userID deviceID) :=
  inferInstanceAs (Decidable (_ ∧ _))

theorem lookup_erase_eq_ite (devices : ClientMap) (k d : String) :
    (devices.erase k).lookup d = if k = d then none else devices.lookup d := by
  split_ifs with h
  · subst h; exact AList.lookup_erase _ _
  · exact AList.lookup_erase_ne (Ne.symm h)

/-- The user map once the device map `devices` of user `u` has lost `k`. -/
theorem entryOf_replace {uc : UserMap} {u : String} (devices : ClientMap) (k v d : String) :
    entryOf (if (devices.erase k).keys = [] then uc.erase u else uc.insert u (devices.erase k)) v d =
      if u = v then (devices.erase k).lookup d else entryOf uc v d := by
  by_cases hv : u = v
  · subst hv
    rw [if_pos rfl]
    split_ifs with he
    · rw [entryOf, AList.lookup_erase, AList.lookup_eq_none.mpr fun h => by
        rw [AList.mem_keys, he] at h; exact List.not_mem_nil _ h]
      rfl
    · rw [entryOf, AList.lookup_insert]; rfl
  · rw [if_neg hv]
    split_ifs <;>
      simp only [entryOf, AList.lookup_erase_ne (Ne.symm hv), AList.lookup_insert_ne (Ne.symm hv)]

/-- Dropping client `c` deletes the entry at its own pair, and no other. -/
theorem entryOf_dropUserMapping (uc : UserMap) (c : Client) (u d : String) :
    entryOf (dropUserMapping uc c) u d = if c.holds u d then none else entryOf uc u d := by
  unfold dropUserMapping
  by_cases hu : c.userID = ""
  · simp [hu, Client.holds]
  rw [if_pos hu]
  cases hl : uc.lookup c.userID with
  | none =>
    dsimp only
    split_ifs with h
    · obtain ⟨-, rfl, rfl⟩ := h; simp [entryOf, hl]
    · rfl
  | some devices =>
    dsimp only
    rw [entryOf_replace, lookup_erase_eq_ite]
    by_cases hv : c.userID = u
    · subst hv
      simp [Client.holds, hu, entryOf, hl]
    · simp [Client.holds, hv]

/-- **`RemoveClient(x)` of a present client `p`** returns it, deletes the
`clients` entry of `x`, and deletes the `userClients` entry at the pair `p`'s
fields name, whatever client that entry holds; every other entry stays. -/
theorem Shard.removeClient_effect (s : Shard) (heap : Ptr → Client) {x : String} {p : Ptr}
    (hx : s.clients.lookup x = some p) :
    (s.removeClient heap x).2 = some p ∧ (s.removeClient heap x).1.clients = s.clients.erase x ∧
      ∀ u d, entryOf (s.removeClient heap x).1.userClients u d =
        if (heap p).holds u d then none else entryOf s.userClients u d := by
  unfold Shard.removeClient
  rw [hx]
  exact ⟨rfl, rfl, entryOf_dropUserMapping _ _⟩

theorem Shard.removeClient_effect_c1 :
    (newShard 0 |>.addClient (fun _ => newClient "c1" "" 0 0) 0).clients.lookup "c1" = some 0 ∧
      ((newShard 0 |>.addClient (fun _ => newClient "c1" "" 0 0) 0).removeClient
          (fun _ => newClient "c1" "" 0 0) "c1").2 = some 0 ∧
      ((newShard 0 |>.addClient (fun _ => newClient "c1" "" 0 0) 0).removeClient
          (fun _ => newClient "c1" "" 0 0) "c1").1.clients =
        (newShard 0 |>.addClient (fun _ => newClient "c1" "" 0 0) 0).clients.erase "c1" ∧
      ∀ u d, entryOf ((newShard 0 |>.addClient (fun _ => newClient "c1" "" 0 0) 0).removeClient
          (fun _ => newClient "c1" "" 0 0) "c1").1.userClients u d =
        if (newClient "c1" "" 0 0).holds u d then none
        else entryOf (newShard 0 |>.addClient (fun _ => newClient "c1" "" 0 0) 0).userClients u d :=
  have hx : (newShard 0 |>.addClient (fun _ => newClient "c1" "" 0 0) 0).clients.lookup "c1" =
      some 0 := by decide
  ⟨hx, Shard.removeClient_effect _ _ hx⟩

/-- The sweep reports the idle entries' ids, in order. -/
theorem foldl_sweepEntry_ids (heap : Ptr → Client) (timeout now : Int) :
    ∀ (es : List (Σ _ : String, Ptr)) (acc : Shard × List String),
      (es.foldl (sweepEntry heap timeout now) acc).2 =
        acc.2 ++ (es.filter fun e => now - (heap e.2).lastActivity > timeout).map (·.1)
  | [], _ => by simp
  | e :: es, acc => by
    rw [List.foldl_cons, foldl_sweepEntry_ids heap timeout now es]
    by_cases hc : now - (heap e.2).lastActivity > timeout
    · simp [sweepEntry_pos _ hc, hc]
    · simp [sweepEntry_neg _ hc, hc]

/-- The sweep deletes the keys of the idle entries, and no other. -/
theorem foldl_sweepEntry_clients (heap : Ptr → Client) (timeout now : Int) (k : String) :
    ∀ (es : List (Σ _ : String, Ptr)) (acc : Shard × List String),
      (es.foldl (sweepEntry heap timeout now) acc).1.clients.lookup k =
        if ∃ e ∈ es, e.1 = k ∧ now - (heap e.2).lastActivity > timeout then none
        else acc.1.clients.lookup k
  | [], _ => by simp
  | e :: es, acc => by
    rw [List.foldl_cons, foldl_sweepEntry_clients heap timeout now k es]
    by_cases hc : now - (heap e.2).lastActivity > timeout
    · rw [sweepEntry_pos _ hc, Shard.unlink_clients, lookup_erase_eq_ite]
      by_cases hk : e.1 = k
      · simp only [hk, hc, List.exists_mem_cons_iff, and_self, true_or, if_true, ite_self]
      · simp only [hk, List.exists_mem_cons_iff, false_and, false_or, if_false]
    · simp only [sweepEntry_neg _ hc, List.exists_mem_cons_iff, hc, and_false, false_or]

/-- The sweep deletes the entries at the idle clients' pairs, and no other. -/
theorem foldl_sweepEntry_userClients (heap : Ptr → Client) (timeout now : Int) (u d : String) :
    ∀ (es : List (Σ _ : String, Ptr)) (acc : Shard × List String),
      entryOf (es.foldl (sweepEntry heap timeout now) acc).1.userClients u d =
        if ∃ e ∈ es, now - (heap e.2).lastActivity > timeout ∧ (heap e.2).holds u d then none
        else entryOf acc.1.userClients u d
  | [], _ => by simp
  | e :: es, acc => by
    rw [List.foldl_cons, foldl_sweepEntry_userClients heap timeout now u d es]
    by_cases hc : now - (heap e.2).lastActivity > timeout
    · rw [sweepEntry_pos _ hc]
      simp only [Shard.unlink, entryOf_dropUserMapping, List.exists_mem_cons_iff, hc, true_and]
      by_cases h1 : ∃ e ∈ es, now - (heap e.2).lastActivity > timeout ∧ (heap e.2).holds u d <;>
        by_cases h2 : (heap e.2).holds u d <;> simp only [h1, h2, if_true, if_false, or_true, or_false]
    · simp only [sweepEntry_neg _ hc, List.exists_mem_cons_iff, hc, false_and, false_or]

/-- **`CleanupInactive(timeout)` at `now`** returns the ids of the clients idle
for longer than `timeout`, deletes exactly their `clients` entries, and
deletes the `userClients` entries at the pairs their fields name, whatever
client those entries hold; every other entry stays. -/
theorem Shard.cleanupInactive_effect (s : Shard) (heap : Ptr → Client) (timeout now : Int) :
    (s.cleanupInactive heap timeout now).2 =
        (s.clients.entries.filter fun e => now - (heap e.2).lastActivity > timeout).map (·.1) ∧
      (∀ k p, (s.cleanupInactive heap timeout now).1.clients.lookup k = some p ↔
        s.clients.lookup k = some p ∧ ¬now - (heap p).lastActivity > timeout) ∧
      ∀ u d, entryOf (s.cleanupInactive heap timeout now).1.userClients u d =
        if ∃ e ∈ s.clients.entries, now - (heap e.2).lastActivity > timeout ∧ (heap e.2).holds u d
        then none else entryOf s.userClients u d := by
  refine ⟨by simp [Shard.cleanupInactive, foldl_sweepEntry_ids], fun k p => ?_,
    fun u d => foldl_sweepEntry_userClients heap timeout now u d _ (s, [])⟩
  rw [Shard.cleanupInactive, foldl_sweepEntry_clients]
  constructor
  · intro h
    split_ifs at h with hk
    refine ⟨h, fun hp => hk ⟨⟨k, p⟩, AList.mem_lookup_iff.mp h, rfl, hp⟩⟩
  · rintro ⟨h, hp⟩
    rw [if_neg]
    · exact h
    · rintro ⟨e, he, rfl, he'⟩
      obtain rfl : e.2 = p := Option.some_injective _
        ((AList.mem_lookup_iff.mpr he).symm.trans h)
      exact hp he'

/-! ### Keys -/

theorem Shard.lookup_unlink {s : Shard} {k' k : String} {c : Client} {p : Ptr}
    (h : (s.unlink k' c).clients.lookup k = some p) : s.clients.lookup k = some p := by
  rw [Shard.unlink_clients] at h
  by_cases hk : k = k'
  · subst hk; rw [AList.lookup_erase] at h; cases h
  · rwa [AList.lookup_erase_ne hk] at h

/-- The sweep only removes: an entry after it was an entry before. -/
theorem foldl_sweepEntry_lookup (heap : Ptr → Client) (timeout now : Int) {k : String} {p : Ptr} :
    ∀ (es : List (Σ _ : String, Ptr)) (acc : Shard × List String),
      (es.foldl (sweepEntry heap timeout now) acc).1.clients.lookup k = some p →
        acc.1.clients.lookup k = some p
  | [], _, h => h
  | e :: es, acc, h => by
    have := foldl_sweepEntry_lookup heap timeout now es _ h
    by_cases hc : now - (heap e.2).lastActivity > timeout
    · rw [sweepEntry_pos _ hc] at this
      exact Shard.lookup_unlink this
    · rwa [sweepEntry_neg _ hc] at this

/-- A key the sweep reports is gone from the shard it returns. -/
theorem foldl_sweepEntry_removed (heap : Ptr → Client) (timeout now : Int) {k : String} :
    ∀ (es : List (Σ _ : String, Ptr)) (acc : Shard × List String),
      (k ∈ acc.2 → k ∉ acc.1.clients) →
      k ∈ (es.foldl (sweepEntry heap timeout now) acc).2 →
      k ∉ (es.foldl (sweepEntry heap timeout now) acc).1.clients
  | [], _, h, hk => h hk
  | e :: es, acc, h, hk => by
    refine foldl_sweepEntry_removed heap timeout now es _ ?_ hk
    by_cases hc : now - (heap e.2).lastActivity > timeout
    · rw [sweepEntry_pos _ hc]
      intro hk' hmem
      rcases List.mem_append.mp hk' with hk' | hk'
      · exact h hk' (AList.mem_erase.mp hmem).2
      · exact (AList.mem_erase.mp hmem).1 (List.mem_singleton.mp hk')
    · rwa [sweepEntry_neg _ hc]

theorem Shard.lookup_cleanupInactive {s : Shard} {heap : Ptr → Client} {timeout now : Int}
    {k : String} {p : Ptr} (h : (s.cleanupInactive heap timeout now).1.clients.lookup k = some p) :
    s.clients.lookup k = some p :=
  foldl_sweepEntry_lookup heap timeout now _ (s, []) h

theorem Shard.lookup_removeClient {s : Shard} {heap : Ptr → Client} {clientID k : String}
    {p : Ptr} (h : (s.removeClient heap clientID).1.clients.lookup k = some p) :
    s.clients.lookup k = some p := by
  unfold Shard.removeClient at h
  split at h
  · exact h
  · exact Shard.lookup_unlink h

/-- The client `RemoveClient` returns was under its key, which is gone after it. -/
theorem Shard.removeClient_some {s : Shard} {heap : Ptr → Client} {clientID : String} {p : Ptr}
    (h : (s.removeClient heap clientID).2 = some p) :
    s.clients.lookup clientID = some p ∧
      (s.removeClient heap clientID).1.clients.lookup clientID = none := by
  unfold Shard.removeClient at h ⊢
  cases hl : s.clients.lookup clientID with
  | none => simp only [hl, reduceCtorEq] at h
  | some q =>
    simp only [hl, Option.some.injEq] at h ⊢
    exact ⟨h, by rw [Shard.unlink_clients, AList.lookup_erase]⟩

@[simp] theorem Shard.registerAuthenticatedClient_clients (s : Shard) (heap : Ptr → Client)
    (p : Ptr) (userID deviceID : String) :
    (s.registerAuthenticatedClient heap p userID deviceID).1.clients = s.clients := rfl

/-- The sweep reports only keys it started with. -/
theorem foldl_sweepEntry_reported (heap : Ptr → Client) (timeout now : Int) {k : String} :
    ∀ (es : List (Σ _ : String, Ptr)) (acc : Shard × List String),
      k ∈ (es.foldl (sweepEntry heap timeout now) acc).2 → k ∈ acc.2 ∨ k ∈ es.map (·.1)
  | [], _, h => .inl h
  | e :: es, acc, h => by
    rcases foldl_sweepEntry_reported heap timeout now es _ h with h | h
    · by_cases hc : now - (heap e.2).lastActivity > timeout
      · rw [sweepEntry_pos _ hc, List.mem_append, List.mem_singleton] at h
        rcases h with h | rfl
        · exact .inl h
        · exact .inr (List.mem_cons_self _ _)
      · rw [sweepEntry_neg _ hc] at h
        exact .inl h
    · exact .inr (List.mem_cons_of_mem _ h)

theorem Shard.mem_of_reported {s : Shard} {heap : Ptr → Client} {timeout now : Int} {k : String}
    (h : k ∈ (s.cleanupInactive heap timeout now).2) : k ∈ s.clients := by
  rcases foldl_sweepEntry_reported heap timeout now _ (s, []) h with h | h
  · exact absurd h (List.not_mem_nil _)
  · exact AList.mem_keys.mpr h

theorem Shard.not_mem_cleanupInactive {s : Shard} {heap : Ptr → Client} {timeout now : Int}
    {k : String} (h : k ∈ (s.cleanupInactive heap timeout now).2) :
    k ∉ (s.cleanupInactive heap timeout now).1.clients :=
  foldl_sweepEntry_removed heap timeout now _ (s, []) (fun h => absurd h (List.not_mem_nil _)) h

end Connection
end Gateway
