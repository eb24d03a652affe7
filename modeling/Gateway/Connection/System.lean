import Gateway.Connection.Manager
import Mathlib.Logic.Relation

/-
# Runs of the gateway process

The state of the process is the manager and its goroutines. A step is a call
of the manager's API, which starts a goroutine, or one step of a goroutine,
whichever it is: `Step` picks any of them, so a run is any interleaving. The
process starts from `NewManager(cfg)` with its cleanup goroutine running.

A property of every reachable state is proved once as an inductive invariant
(`Inductive.reachable`). The frame lemmas say which goroutines can change
which part of the manager (`exec_shards`, `exec_globalConns`, ...), so an
invariant about one part needs the steps of the few goroutines that write it.

The first such invariant is `KeyedBelow`: every key of a shard's `clients`
map is the id of the client it maps to, which the manager has made. With the
freshness of `uuid.New()` it makes every `AddClient` add a new key.

A concrete run is a list of `Move`s, evaluated by `Sys.moves`; a run that
evaluates to a state reaches it (`reachable_runOf`).

Key definitions: `Step`, `Reachable`, `KeyedBelow`. Key theorems:
`Inductive.reachable`, `reachable_keyedBelow`.
-/

namespace Gateway
namespace Connection

/-- The process: the manager and the goroutines running its code. -/
structure Sys where
  mgr : Manager
  threads : List Thread

/-- One step of the process: a call starts, or a goroutine takes a step. -/
inductive Step : Sys → Sys → Prop
  | call (m : Manager) (ts : List Thread) (c : Call) :
      Step ⟨m, ts⟩ ⟨(c.start m).1, ts ++ [(c.start m).2]⟩
  | run (m m' : Manager) (pre post new : List Thread) (t : Thread) (e : Env) :
      exec t e m = some (m', new) → Step ⟨m, pre ++ t :: post⟩ ⟨m', pre ++ new ++ post⟩

/-- `NewManager(cfg)`, with the cleanup goroutine at its `select`. -/
def init (cfg : Config) : Sys := ⟨newManager cfg, [.cleanupRoutine]⟩

/-- The states some run from `init cfg` reaches. -/
def Reachable (cfg : Config) (s : Sys) : Prop := Relation.ReflTransGen Step (init cfg) s

/-- An inductive invariant: it holds initially and every step keeps it. -/
structure Inductive (cfg : Config) (I : Sys → Prop) : Prop where
  init : I (init cfg)
  step : ∀ {s s'}, I s → Step s s' → I s'

theorem Inductive.reachable {cfg : Config} {I : Sys → Prop} (h : Inductive cfg I) {s : Sys}
    (hs : Reachable cfg s) : I s := by
  induction hs with
  | refl => exact h.init
  | tail _ hst ih => exact h.step ih hst

/-- An invariant of the manager alone, kept by every call and every step. -/
theorem Inductive.of_mgr {cfg : Config} {P : Manager → Prop} (h0 : P (newManager cfg))
    (hcall : ∀ (c : Call) (m : Manager), P m → P (c.start m).1)
    (hexec : ∀ {t e m m' ts}, exec t e m = some (m', ts) → P m → P m') :
    Inductive cfg (P ·.mgr) where
  init := h0
  step := by
    intro s s' hs hst
    cases hst with
    | call m ts c => exact hcall c m hs
    | run m m' pre post new t e h => exact hexec h hs

/-! ### Concrete runs -/

/-- A move of a concrete run: a call, or a step of the goroutine at index `i`. -/
inductive Move where
  | call (c : Call)
  | run (i : Nat) (e : Env)

/-- The state after a move, if the move can be made. -/
def Sys.move (s : Sys) : Move → Option Sys
  | .call c => some ⟨(c.start s.mgr).1, s.threads ++ [(c.start s.mgr).2]⟩
  | .run i e =>
    match s.threads[i]? with
    | none => none
    | some t => (exec t e s.mgr).map fun r => ⟨r.1, s.threads.take i ++ r.2 ++ s.threads.drop (i + 1)⟩

/-- The state after a list of moves. -/
def Sys.moves (s : Sys) : List Move → Option Sys
  | [] => some s
  | mv :: mvs => (s.move mv).bind (·.moves mvs)

theorem Sys.step_of_move {s s' : Sys} {mv : Move} (h : s.move mv = some s') : Step s s' := by
  obtain ⟨m, ts⟩ := s
  cases mv with
  | call c => cases h; exact .call m ts c
  | run i e =>
    simp only [Sys.move] at h
    split at h
    · cases h
    · next t ht =>
      obtain ⟨⟨m', new⟩, hx, rfl⟩ := Option.map_eq_some'.mp h
      have hts : ts = ts.take i ++ t :: ts.drop (i + 1) := by
        rw [List.getElem?_eq_some_iff] at ht
        obtain ⟨hi, rfl⟩ := ht
        simp
      have hst := Step.run m m' (ts.take i) (ts.drop (i + 1)) new t e hx
      rwa [← hts] at hst

theorem Sys.reach_of_moves {s : Sys} :
    ∀ {mvs : List Move} {s' : Sys}, s.moves mvs = some s' → Relation.ReflTransGen Step s s'
  | [], _, h => by cases h; exact .refl
  | mv :: mvs, s', h => by
    obtain ⟨s₁, h₁, h₂⟩ := Option.bind_eq_some.mp h
    exact .head (Sys.step_of_move h₁) (Sys.reach_of_moves h₂)

/-- The state a concrete run from `init cfg` ends in (`init cfg` if the run
cannot be made). -/
def runOf (cfg : Config) (mvs : List Move) : Sys := ((init cfg).moves mvs).getD (init cfg)

/-- **A concrete run that can be made reaches its end.** -/
theorem reachable_runOf {cfg : Config} {mvs : List Move} (h : ((init cfg).moves mvs).isSome) :
    Reachable cfg (runOf cfg mvs) := by
  obtain ⟨s, hs⟩ := Option.isSome_iff_exists.mp h
  rw [runOf, hs]
  exact Sys.reach_of_moves hs

/-- A configuration `validateConfig` accepts: the values of `setDefaults`, a
secret, and one shard. -/
def smallConfig : Config :=
  { jwtSecret := "secret", maxMessageSize := 512 * 1024, pongWait := 60 * 10 ^ 9,
    globalConnections := 1000000, shardCount := 1 }

/-- `AddConnection` from call to return, with `n` goroutines running before it;
the new client gets `clientID` at `now`. -/
def addConnectionMoves (n : Nat) (ip clientID : String) (now : Int) : List Move :=
  [.call (.addConnection ip), .run n .quiet, .run n (.allow true), .run n (.fresh clientID now),
    .run n .quiet, .run n .quiet]

/-- `AuthenticateClient` from call to return, with `n` goroutines running before it. -/
def authenticateMoves (n : Nat) (clientID userID deviceID : String) : List Move :=
  [.call (.authenticateClient clientID userID deviceID), .run n .quiet, .run n (.allow true),
    .run n .quiet]

/-- `RemoveClient` of a present client from call to return, with `n` goroutines
running before it. -/
def removeMoves (n : Nat) (clientID reason : String) : List Move :=
  [.call (.removeClient clientID reason), .run n .quiet, .run n .quiet, .run n .quiet,
    .run n .quiet]

/-! ### Frames: who writes what -/

/-- The steps that write a shard's maps. -/
def Thread.writesShard : Thread → Bool
  | .addRegister _ | .authRegister .. | .removeShard .. | .sweepShard _ => true
  | _ => false

/-- The steps that add to or subtract from `globalConns`. -/
def Thread.writesCounter : Thread → Bool
  | .addCount _ | .removeCount .. | .sweepCount .. => true
  | _ => false

/-- The steps that may call `onDisconnect`. -/
def Thread.notifies : Thread → Bool
  | .removeNotify .. | .sweepLookup .. => true
  | _ => false

/-- The step that makes a client. -/
def Thread.allocates : Thread → Bool
  | .addRegister _ => true
  | _ => false

theorem forall_mem_afterRemove {P : Thread → Prop} {pump : Option Ptr} :
    (∀ t ∈ afterRemove pump, P t) ↔ ∀ p, pump = some p → P (.readCleanup p) := by
  cases pump <;> simp [afterRemove]

/-! ### What a step can do -/

/-- The client `AddConnection` makes with id `clientID` at `now`, in the heap. -/
def Manager.withClient (m : Manager) (ip clientID : String) (now : Int) : Ptr → Client :=
  Function.update m.heap m.next (newClient clientID ip (m.getShardID clientID) now)

/-- The ways `exec` returns, one constructor each: the condition it checks, and
the manager and the goroutines it ends in. -/
inductive ExecStep : Thread → Env → Manager → Manager → List Thread → Prop
  | addFull (ip : String) (e : Env) (m : Manager) : m.globalConns ≥ m.maxConns →
      ExecStep (.addCheck ip) e m m []
  | addChecked (ip : String) (e : Env) (m : Manager) : ¬m.globalConns ≥ m.maxConns →
      ExecStep (.addCheck ip) e m m [.addAllow ip]
  | addAllowed (ip : String) (ok : Bool) (m : Manager) : ok = true →
      ExecStep (.addAllow ip) (.allow ok) m m [.addRegister ip]
  | addRefused (ip : String) (ok : Bool) (m : Manager) : ok = false →
      ExecStep (.addAllow ip) (.allow ok) m m []
  | addRegister (ip clientID : String) (now : Int) (m : Manager) (s : Shard) :
      m.issued clientID = false → m.shards[m.getShardID clientID]? = some s →
      ExecStep (.addRegister ip) (.fresh clientID now) m
        { m with
          shards := m.shards.set (m.getShardID clientID)
            (s.addClient (m.withClient ip clientID now) m.next),
          heap := m.withClient ip clientID now, next := m.next + 1 } [.addCount m.next]
  | addCount (p : Ptr) (e : Env) (m : Manager) :
      ExecStep (.addCount p) e m { m with globalConns := m.globalConns + 1 } [.addStart p]
  | addStart (p : Ptr) (e : Env) (m : Manager) :
      ExecStep (.addStart p) e m { m with wg := m.wg + 2 } [.readPump p, .writePump p]
  | authMissing (clientID userID deviceID : String) (e : Env) (m : Manager) (s : Shard) :
      m.shards[m.getShardID clientID]? = some s → s.getClient clientID = none →
      ExecStep (.authLookup clientID userID deviceID) e m m []
  | authFound (clientID userID deviceID : String) (e : Env) (m : Manager) (s : Shard) (p : Ptr) :
      m.shards[m.getShardID clientID]? = some s → s.getClient clientID = some p →
      ExecStep (.authLookup clientID userID deviceID) e m m
        [.authAllow (m.getShardID clientID) p userID deviceID]
  | authAllowed (i : Nat) (p : Ptr) (userID deviceID : String) (ok : Bool) (m : Manager) :
      ok = true →
      ExecStep (.authAllow i p userID deviceID) (.allow ok) m m [.authRegister i p userID deviceID]
  | authRefused (i : Nat) (p : Ptr) (userID deviceID : String) (ok : Bool) (m : Manager) :
      ok = false → ExecStep (.authAllow i p userID deviceID) (.allow ok) m m []
  | authRegister (i : Nat) (p : Ptr) (userID deviceID : String) (e : Env) (m : Manager)
      (s : Shard) : m.shards[i]? = some s →
      ExecStep (.authRegister i p userID deviceID) e m
        { m with
          shards := m.shards.set i (s.registerAuthenticatedClient m.heap p userID deviceID).1,
          heap := (s.registerAuthenticatedClient m.heap p userID deviceID).2 } []
  | sendMissing (clientID : String) (message : Bytes) (e : Env) (m : Manager) (s : Shard) :
      m.shards[m.getShardID clientID]? = some s → s.getClient clientID = none →
      ExecStep (.sendLookup clientID message) e m m []
  | sendFound (clientID : String) (message : Bytes) (e : Env) (m : Manager) (s : Shard) (p : Ptr) :
      m.shards[m.getShardID clientID]? = some s → s.getClient clientID = some p →
      ExecStep (.sendLookup clientID message) e m m [.sendWrite p message]
  | sendWrite (p : Ptr) (message : Bytes) (e : Env) (m : Manager) :
      ExecStep (.sendWrite p message) e m (m.updateClient p (·.enqueue message)) []
  | broadcastEnd (i : Nat) (userID : String) (message : Bytes) (e : Env) (m : Manager) :
      m.shards[i]? = none → ExecStep (.broadcast i userID message) e m m []
  | broadcastShard (i : Nat) (userID : String) (message : Bytes) (e : Env) (m : Manager)
      (s : Shard) : m.shards[i]? = some s →
      ExecStep (.broadcast i userID message) e m m
        [.broadcastWrite i (s.getUserClients userID) userID message]
  | broadcastNext (i : Nat) (userID : String) (message : Bytes) (e : Env) (m : Manager) :
      ExecStep (.broadcastWrite i [] userID message) e m m [.broadcast (i + 1) userID message]
  | broadcastWrite (i : Nat) (p : Ptr) (ps : List Ptr) (userID : String) (message : Bytes)
      (e : Env) (m : Manager) :
      ExecStep (.broadcastWrite i (p :: ps) userID message) e m
        (m.updateClient p (·.enqueue message)) [.broadcastWrite i ps userID message]
  | removeMissing (clientID reason : String) (pump : Option Ptr) (e : Env) (m : Manager)
      (s : Shard) : m.shards[m.getShardID clientID]? = some s →
      (s.removeClient m.heap clientID).2 = none →
      ExecStep (.removeShard clientID reason pump) e m
        { m with shards := m.shards.set (m.getShardID clientID) (s.removeClient m.heap clientID).1 }
        (afterRemove pump)
  | removeFound (clientID reason : String) (pump : Option Ptr) (e : Env) (m : Manager)
      (s : Shard) (p : Ptr) : m.shards[m.getShardID clientID]? = some s →
      (s.removeClient m.heap clientID).2 = some p →
      ExecStep (.removeShard clientID reason pump) e m
        { m with shards := m.shards.set (m.getShardID clientID) (s.removeClient m.heap clientID).1 }
        [.removeCount p reason pump]
  | removeCount (p : Ptr) (reason : String) (pump : Option Ptr) (e : Env) (m : Manager) :
      ExecStep (.removeCount p reason pump) e m { m with globalConns := m.globalConns - 1 }
        [.removeClose p reason pump]
  | removeClose (p : Ptr) (reason : String) (pump : Option Ptr) (e : Env) (m : Manager) :
      ExecStep (.removeClose p reason pump) e m (m.updateClient p Client.close)
        [.removeNotify p reason pump]
  | removeNotify (p : Ptr) (reason : String) (pump : Option Ptr) (e : Env) (m : Manager) :
      ExecStep (.removeNotify p reason pump) e m
        { m with disconnects := m.disconnects ++ [(p, reason)] } (afterRemove pump)
  | readAllowed (p : Ptr) (now : Int) (allowed : Bool) (messageID : String) (nowMs : Int64)
      (m : Manager) : (m.heap p).closing = false → allowed = true →
      ExecStep (.readPump p) (.frame now allowed messageID nowMs) m
        (m.updateClient p fun _ => { m.heap p with lastActivity := now }) [.readPump p]
  | readLimited (p : Ptr) (now : Int) (allowed : Bool) (messageID : String) (nowMs : Int64)
      (m : Manager) : (m.heap p).closing = false → allowed = false →
      ExecStep (.readPump p) (.frame now allowed messageID nowMs) m
        (m.updateClient p fun _ =>
          { m.heap p with lastActivity := now }.enqueue (rateLimitBytes messageID nowMs))
        [.readPump p]
  | readError (p : Ptr) (m : Manager) :
      ExecStep (.readPump p) .readError m m [.removeShard (m.heap p).id "client_disconnected" (some p)]
  | readDone (p : Ptr) (m : Manager) : (m.heap p).closing = true →
      ExecStep (.readPump p) .done m m [.removeShard (m.heap p).id "client_disconnected" (some p)]
  | readCleanup (p : Ptr) (e : Env) (m : Manager) : ExecStep (.readCleanup p) e m (m.pumpExit p) []
  | writeDone (p : Ptr) (m : Manager) : (m.heap p).closing = true →
      ExecStep (.writePump p) .done m (m.pumpExit p) []
  | writeDrained (p : Ptr) (ok : Bool) (m : Manager) : (m.heap p).send = [] →
      (m.heap p).closing = true → ExecStep (.writePump p) (.recv ok) m (m.pumpExit p) []
  | writeFrame (p : Ptr) (ok : Bool) (msg : Bytes) (rest : List Bytes) (m : Manager) :
      (m.heap p).send = msg :: rest → (ok && !(m.heap p).closing) = true →
      ExecStep (.writePump p) (.recv ok) m
        (m.updateClient p fun c => { c with send := [], wire := c.wire ++ [msg :: rest] })
        [.writePump p]
  | writeFailed (p : Ptr) (ok : Bool) (msg : Bytes) (rest : List Bytes) (m : Manager) :
      (m.heap p).send = msg :: rest → (ok && !(m.heap p).closing) = false →
      ExecStep (.writePump p) (.recv ok) m
        ((m.updateClient p fun c => { c with send := rest }).pumpExit p) []
  | writeTick (p : Ptr) (ok : Bool) (m : Manager) : (ok && !(m.heap p).closing) = true →
      ExecStep (.writePump p) (.tick ok) m m [.writePump p]
  | writeTickFailed (p : Ptr) (ok : Bool) (m : Manager) : (ok && !(m.heap p).closing) = false →
      ExecStep (.writePump p) (.tick ok) m (m.pumpExit p) []
  | cleanupDone (m : Manager) : m.cancelled = true →
      ExecStep .cleanupRoutine .done m { m with wg := m.wg - 1 } []
  | cleanupTick (ok : Bool) (m : Manager) : ExecStep .cleanupRoutine (.tick ok) m m [.sweepShard 0]
  | sweepEnd (i : Nat) (now : Int) (m : Manager) : m.shards[i]? = none →
      ExecStep (.sweepShard i) (.clock now) m m [.cleanupRoutine]
  | sweepShard (i : Nat) (now : Int) (m : Manager) (s : Shard) : m.shards[i]? = some s →
      ExecStep (.sweepShard i) (.clock now) m
        { m with shards := m.shards.set i (s.cleanupInactive m.heap (m.config.pongWait * 2) now).1 }
        [.sweepCount i (s.cleanupInactive m.heap (m.config.pongWait * 2) now).2]
  | sweepNext (i : Nat) (e : Env) (m : Manager) :
      ExecStep (.sweepCount i []) e m m [.sweepShard (i + 1)]
  | sweepCount (i : Nat) (clientID : String) (ids : List String) (e : Env) (m : Manager) :
      ExecStep (.sweepCount i (clientID :: ids)) e m { m with globalConns := m.globalConns - 1 }
        [.sweepLookup i clientID ids]
  | sweepFound (i : Nat) (clientID : String) (ids : List String) (e : Env) (m : Manager) (p : Ptr) :
      (m.shards[i]?).bind (·.getClient clientID) = some p →
      ExecStep (.sweepLookup i clientID ids) e m
        { m with disconnects := m.disconnects ++ [(p, "inactive_timeout")] } [.sweepCount i ids]
  | sweepMissed (i : Nat) (clientID : String) (ids : List String) (e : Env) (m : Manager) :
      (m.shards[i]?).bind (·.getClient clientID) = none →
      ExecStep (.sweepLookup i clientID ids) e m m [.sweepCount i ids]
  | shutdownWait (e : Env) (m : Manager) : m.wg = 0 → ExecStep .shutdownWait e m m []

section Frames

variable {t : Thread} {e : Env} {m m' : Manager} {ts : List Thread}

/-- **Every step is one of `ExecStep`'s**: the one inversion of `exec`, from
which the lemmas below read what a step can change. -/
theorem exec_sound (h : exec t e m = some (m', ts)) : ExecStep t e m m' ts := by
  cases t <;> simp only [exec] at h <;> (repeat' split at h) <;>
    simp only [Option.map_eq_some', Option.some.injEq, Prod.mk.injEq, reduceCtorEq] at h <;>
    (try obtain ⟨rfl, rfl⟩ := h) <;> (try obtain ⟨_, _, rfl, rfl⟩ := h) <;> (try split) <;>
    (try simp only [Bool.not_eq_true] at *) <;> constructor <;> assumption

/-- **What a step can change.** The shards only by the steps that write them,
the counter, the calls of `onDisconnect` and the heap's next address likewise;
the configuration, the shard table's shape and the manager's context never. -/
theorem exec_frame (h : exec t e m = some (m', ts)) :
    (t.writesShard = false → m'.shards = m.shards) ∧
    (t.writesCounter = false → m'.globalConns = m.globalConns) ∧
    (t.notifies = false → m'.disconnects = m.disconnects) ∧
    (t.allocates = false → m'.next = m.next) ∧
    m'.config = m.config ∧ m'.shardMask = m.shardMask ∧ m'.maxConns = m.maxConns ∧
    m'.shards.length = m.shards.length ∧ m'.cancelled = m.cancelled := by
  cases exec_sound h <;>
    simp [Thread.writesShard, Thread.writesCounter, Thread.notifies, Thread.allocates,
      Manager.pumpExit, Manager.updateClient]

theorem exec_shards (h : exec t e m = some (m', ts)) (ht : t.writesShard = false) :
    m'.shards = m.shards := (exec_frame h).1 ht

theorem exec_globalConns (h : exec t e m = some (m', ts)) (ht : t.writesCounter = false) :
    m'.globalConns = m.globalConns := (exec_frame h).2.1 ht

theorem exec_disconnects (h : exec t e m = some (m', ts)) (ht : t.notifies = false) :
    m'.disconnects = m.disconnects := (exec_frame h).2.2.1 ht

theorem exec_next (h : exec t e m = some (m', ts)) (ht : t.allocates = false) :
    m'.next = m.next := (exec_frame h).2.2.2.1 ht

/-- No step changes the id or the shard of a client already made. -/
theorem exec_heap_keys (h : exec t e m = some (m', ts)) {q : Ptr} (hq : q ≠ m.next) :
    (m'.heap q).id = (m.heap q).id ∧ (m'.heap q).shardID = (m.heap q).shardID := by
  cases exec_sound h <;>
    simp only [Manager.pumpExit, Manager.updateClient, Manager.withClient,
      Shard.registerAuthenticatedClient, Function.update_apply, and_self] <;>
    split_ifs <;> simp_all

theorem exec_heap_id (h : exec t e m = some (m', ts)) {q : Ptr} (hq : q ≠ m.next) :
    (m'.heap q).id = (m.heap q).id :=
  (exec_heap_keys h hq).1

/-! ### The steps that write a shard -/

theorem exec_addRegister {ip : String} (h : exec (.addRegister ip) e m = some (m', ts)) :
    ∃ clientID now s, m.issued clientID = false ∧ m.shards[m.getShardID clientID]? = some s ∧
      m' = { m with
        shards := m.shards.set (m.getShardID clientID)
          (s.addClient (m.withClient ip clientID now) m.next),
        heap := m.withClient ip clientID now, next := m.next + 1 } ∧
      ts = [.addCount m.next] := by
  cases exec_sound h with
  | addRegister _ clientID now _ s hi hs => exact ⟨clientID, now, s, hi, hs, rfl, rfl⟩

theorem exec_authRegister {i : Nat} {p : Ptr} {userID deviceID : String}
    (h : exec (.authRegister i p userID deviceID) e m = some (m', ts)) :
    ∃ s, m.shards[i]? = some s ∧
      m' = { m with
        shards := m.shards.set i (s.registerAuthenticatedClient m.heap p userID deviceID).1,
        heap := (s.registerAuthenticatedClient m.heap p userID deviceID).2 } ∧ ts = [] := by
  cases exec_sound h with
  | authRegister _ _ _ _ _ _ s hs => exact ⟨s, hs, rfl, rfl⟩

theorem exec_removeShard {clientID reason : String} {pump : Option Ptr}
    (h : exec (.removeShard clientID reason pump) e m = some (m', ts)) :
    ∃ s, m.shards[m.getShardID clientID]? = some s ∧
      m' = { m with
        shards := m.shards.set (m.getShardID clientID) (s.removeClient m.heap clientID).1 } ∧
      ts = match (s.removeClient m.heap clientID).2 with
        | none => afterRemove pump
        | some p => [.removeCount p reason pump] := by
  cases exec_sound h with
  | removeMissing _ _ _ _ _ s hs hr => exact ⟨s, hs, rfl, by rw [hr]⟩
  | removeFound _ _ _ _ _ s _ hs hr => exact ⟨s, hs, rfl, by rw [hr]⟩

theorem exec_sweepShard {i : Nat} (h : exec (.sweepShard i) e m = some (m', ts)) :
    (m.shards[i]? = none ∧ m' = m ∧ ts = [.cleanupRoutine]) ∨
    ∃ now s, m.shards[i]? = some s ∧
      m' = { m with
        shards := m.shards.set i (s.cleanupInactive m.heap (m.config.pongWait * 2) now).1 } ∧
      ts = [.sweepCount i (s.cleanupInactive m.heap (m.config.pongWait * 2) now).2] := by
  cases exec_sound h with
  | sweepEnd _ _ _ hs => exact .inl ⟨hs, rfl, rfl⟩
  | sweepShard _ now _ s hs => exact .inr ⟨now, s, hs, rfl, rfl⟩

end Frames

/-! ### The keys of the registry -/

/-- Every entry of a shard's `clients` maps a key to a client the manager has
made, whose id is the key. -/
def KeyedBelow (m : Manager) : Prop :=
  ∀ s ∈ m.shards, ∀ k p, s.clients.lookup k = some p → p < m.next ∧ (m.heap p).id = k

/-- A manager whose shards only lost entries, with the same clients' ids. -/
theorem KeyedBelow.of_sub {m m' : Manager} (hm : KeyedBelow m)
    (hsub : ∀ s' ∈ m'.shards, ∀ k p, s'.clients.lookup k = some p →
      ∃ s ∈ m.shards, s.clients.lookup k = some p)
    (hnext : m'.next = m.next) (hid : ∀ q < m.next, (m'.heap q).id = (m.heap q).id) :
    KeyedBelow m' := by
  intro s' hs' k p hp
  obtain ⟨s, hs, hp⟩ := hsub s' hs' k p hp
  obtain ⟨hlt, hk⟩ := hm s hs k p hp
  exact ⟨hnext ▸ hlt, (hid p hlt).trans hk⟩

/-- Replacing shard `i` by one whose entries it had. -/
theorem sub_set {shards : List Shard} {i : Nat} {s s' : Shard} (hs : shards[i]? = some s)
    (hsub : ∀ k p, s'.clients.lookup k = some p → s.clients.lookup k = some p) :
    ∀ s'' ∈ shards.set i s', ∀ k p, s''.clients.lookup k = some p →
      ∃ s ∈ shards, s.clients.lookup k = some p := by
  intro s'' hs'' k p hp
  rcases List.mem_or_eq_of_mem_set hs'' with hs'' | rfl
  · exact ⟨s'', hs'', hp⟩
  · exact ⟨s, List.getElem?_mem hs, hsub k p hp⟩

theorem keyedBelow_newManager (cfg : Config) : KeyedBelow (newManager cfg) := by
  intro s hs k p hp
  obtain ⟨i, -, rfl⟩ := List.mem_map.mp hs
  simp [newShard] at hp

theorem keyedBelow_exec {t : Thread} {e : Env} {m m' : Manager} {ts : List Thread}
    (h : exec t e m = some (m', ts)) (hm : KeyedBelow m) : KeyedBelow m' := by
  have hid : ∀ q < m.next, (m'.heap q).id = (m.heap q).id := fun q hq =>
    exec_heap_id h (Nat.ne_of_lt hq)
  cases hw : t.writesShard
  · have hnext : m'.next = m.next := exec_next h (by cases t <;> simp_all [Thread.writesShard,
      Thread.allocates])
    exact hm.of_sub (fun s' hs' k p hp => ⟨s', exec_shards h hw ▸ hs', hp⟩) hnext hid
  · cases t <;> simp only [Thread.writesShard, reduceCtorEq] at hw
    case addRegister ip =>
      obtain ⟨clientID, now, s, hfresh, hs, rfl, rfl⟩ := exec_addRegister h
      intro s'' hs'' k p hp
      have hnew : (m.withClient ip clientID now m.next).id = clientID := by
        simp [Manager.withClient, newClient]
      rcases List.mem_or_eq_of_mem_set hs'' with hs'' | rfl
      · obtain ⟨hlt, hk⟩ := hm s'' hs'' k p hp
        exact ⟨Nat.lt_succ_of_lt hlt, by simp [Manager.withClient, Nat.ne_of_lt hlt, hk]⟩
      · simp only [Shard.addClient, hnew] at hp
        by_cases hk : k = clientID
        · subst hk
          rw [AList.lookup_insert] at hp
          cases hp
          exact ⟨Nat.lt_succ_self _, hnew⟩
        · rw [AList.lookup_insert_ne hk] at hp
          obtain ⟨hlt, hk⟩ := hm s (List.getElem?_mem hs) k p hp
          exact ⟨Nat.lt_succ_of_lt hlt, by simp [Manager.withClient, Nat.ne_of_lt hlt, hk]⟩
    case authRegister i p userID deviceID =>
      obtain ⟨s, hs, rfl, rfl⟩ := exec_authRegister h
      exact hm.of_sub (sub_set hs fun k p hp => by simpa using hp) rfl hid
    case removeShard clientID reason pump =>
      obtain ⟨s, hs, rfl, rfl⟩ := exec_removeShard h
      exact hm.of_sub (sub_set hs fun k p hp => Shard.lookup_removeClient hp) rfl hid
    case sweepShard i =>
      rcases exec_sweepShard h with ⟨-, rfl, rfl⟩ | ⟨now, s, hs, rfl, rfl⟩
      · exact hm
      · exact hm.of_sub (sub_set hs fun k p hp => Shard.lookup_cleanupInactive hp) rfl hid

theorem issued_iff {m : Manager} {k : String} :
    m.issued k = true ↔ ∃ q < m.next, (m.heap q).id = k := by
  simp [Manager.issued]

/-- An id handed out stays handed out. -/
theorem exec_issued {t : Thread} {e : Env} {m m' : Manager} {ts : List Thread}
    (h : exec t e m = some (m', ts)) {k : String} (hk : m.issued k = true) :
    m'.issued k = true := by
  obtain ⟨q, hq, hid⟩ := issued_iff.mp hk
  have hnext : m.next ≤ m'.next := by
    cases ha : t.allocates
    · rw [exec_next h ha]
    · cases t <;> simp only [Thread.allocates, reduceCtorEq] at ha
      obtain ⟨_, _, _, -, -, rfl, -⟩ := exec_addRegister h
      exact Nat.le_succ _
  exact issued_iff.mpr ⟨q, Nat.lt_of_lt_of_le hq hnext, (exec_heap_id h (Nat.ne_of_lt hq)).trans hid⟩

theorem getElem?_set_cases {α : Type} {l : List α} {i j : Nat} {a b : α}
    (h : (l.set i a)[j]? = some b) : (i = j ∧ b = a) ∨ l[j]? = some b := by
  by_cases hij : i = j
  · subst hij
    rw [List.getElem?_set_self'] at h
    obtain ⟨_, -, h⟩ := Option.map_eq_some'.mp h
    exact .inl ⟨rfl, h.symm⟩
  · exact .inr (by rwa [List.getElem?_set_ne hij] at h)

/-- **Every entry after a step was there before, or has a key never handed out.** -/
theorem exec_entry {t : Thread} {e : Env} {m m' : Manager} {ts : List Thread}
    (h : exec t e m = some (m', ts)) {j : Nat} {sh' : Shard} {k : String} {p : Ptr}
    (hj : m'.shards[j]? = some sh') (hp : sh'.clients.lookup k = some p) :
    (∃ sh, m.shards[j]? = some sh ∧ sh.clients.lookup k = some p) ∨ m.issued k = false := by
  cases hw : t.writesShard
  · exact .inl ⟨sh', exec_shards h hw ▸ hj, hp⟩
  · cases t <;> simp only [Thread.writesShard, reduceCtorEq] at hw
    case addRegister ip =>
      obtain ⟨clientID, now, s, hfresh, hs, rfl, rfl⟩ := exec_addRegister h
      rcases getElem?_set_cases hj with ⟨rfl, rfl⟩ | hj
      · by_cases hk : k = clientID
        · exact .inr (hk ▸ hfresh)
        · have hid : (m.withClient ip clientID now m.next).id = clientID := by
            simp [Manager.withClient, newClient]
          rw [Shard.addClient, hid, AList.lookup_insert_ne hk] at hp
          exact .inl ⟨s, hs, hp⟩
      · exact .inl ⟨sh', hj, hp⟩
    case authRegister i q userID deviceID =>
      obtain ⟨s, hs, rfl, rfl⟩ := exec_authRegister h
      rcases getElem?_set_cases hj with ⟨rfl, rfl⟩ | hj
      · exact .inl ⟨s, hs, hp⟩
      · exact .inl ⟨sh', hj, hp⟩
    case removeShard clientID reason pump =>
      obtain ⟨s, hs, rfl, rfl⟩ := exec_removeShard h
      rcases getElem?_set_cases hj with ⟨rfl, rfl⟩ | hj
      · exact .inl ⟨s, hs, Shard.lookup_removeClient hp⟩
      · exact .inl ⟨sh', hj, hp⟩
    case sweepShard i =>
      rcases exec_sweepShard h with ⟨-, rfl, rfl⟩ | ⟨now, s, hs, rfl, rfl⟩
      · exact .inl ⟨sh', hj, hp⟩
      · rcases getElem?_set_cases hj with ⟨rfl, rfl⟩ | hj
        · exact .inl ⟨s, hs, Shard.lookup_cleanupInactive hp⟩
        · exact .inl ⟨sh', hj, hp⟩

/-- **Every key of the registry names the client it maps to**, in every
reachable state. -/
theorem reachable_keyedBelow {cfg : Config} {s : Sys} (hs : Reachable cfg s) :
    KeyedBelow s.mgr :=
  (Inductive.of_mgr (keyedBelow_newManager cfg)
    (fun c m hm => by cases c <;> exact hm) keyedBelow_exec).reachable hs

end Connection
end Gateway
