import Gateway.Connection.Shard

/-
# The connection manager

`Manager` holds the shards, the global connection counter and its ceiling,
the heap of clients `AddConnection` has made, the calls of the
`onDisconnect` hook, the manager's context and its wait group.

The manager's code runs in goroutines: the calls `AddConnection`,
`AuthenticateClient`, `SendToClient`, `SendToUser`, `RemoveClient` and
`Shutdown`, each client's `ReadPump` and `WritePump`, and the cleanup
goroutine. A `Thread` is one of them, at a point between two of its atomic
steps; `exec` runs one step. A section under a shard's lock is one step, as
are an atomic update of `globalConns` and a section under a client's lock.
What a step reads from outside the process (a rate limiter's answer, the new
uuid, the clock, a frame or an error from the socket, a tick) is its `Env`;
a step that cannot run with the `Env` it is given, or that waits (a `select`
with nothing ready, `m.wg.Wait()` with a positive counter), returns `none`.
A step that would index `m.shards` out of range returns `none` too: Go
panics there.

`uuid.New()` is fresh: `AddConnection` never gets an id the manager has
already handed out (`Manager.issued`).

The handlers are registered: `onDisconnect` is recorded in `disconnects`;
`onMessage` (the router, not part of this code) and `onConnect` run no step
of the manager here: a call they make is a call of its own.

`BroadcastToUser` takes the shard's read lock around `GetUserClients`, which
takes it again; here the two are one step, and what the nested read lock
can do is the subject of `Gateway.Connection.Lock`.

Key definitions: `newManager`, `Thread`, `exec`, `Call.start`.
-/

namespace Gateway
namespace Connection

/-! ### Configuration -/

/-- The fields of `config.Config` the manager, the server and `validateConfig`
read; the rate limits default to the values of `setDefaults`. -/
structure Config where
  /-- `Auth.JWTSecret`. -/
  jwtSecret : String
  /-- `Server.MaxMessageSize`. -/
  maxMessageSize : Int
  /-- `Server.PongWait`, in nanoseconds. -/
  pongWait : Int
  /-- `RateLimit.GlobalConnections`. -/
  globalConnections : Int
  /-- `Sharding.ShardCount`. -/
  shardCount : Int
  /-- `RateLimit.Burst`. -/
  burst : Int := 150
  /-- `RateLimit.ConnectionsPerUser`. -/
  connectionsPerUser : Int := 5
  /-- `Server.MaxConnsPerIP`, which no code of the gateway reads. -/
  maxConnsPerIP : Int := 10
  deriving DecidableEq, Repr

/-- `validateConfig(cfg)`. -/
def validateConfig (cfg : Config) : Except String Unit :=
  if cfg.jwtSecret = "" then .error "jwt_secret is required"
  else if cfg.maxMessageSize > 10 * 1024 * 1024 then .error "max_message_size cannot exceed 10MB"
  else if cfg.shardCount ≤ 0 then .error "shard_count must be positive"
  else if cfg.globalConnections ≤ 0 then .error "global_connections limit must be positive"
  else .ok ()

/-! ### Shard selection -/

/-- `nextPowerOfTwo(n)`, in `uint32` arithmetic. -/
def nextPowerOfTwo (n : UInt32) : UInt32 :=
  let n := n - 1
  let n := n ||| n >>> 1
  let n := n ||| n >>> 2
  let n := n ||| n >>> 4
  let n := n ||| n >>> 8
  let n := n ||| n >>> 16
  n + 1

/-- FNV-1a, 32 bits, as `hash/fnv`'s `New32a` computes it. -/
def fnv32a (data : List UInt8) : UInt32 :=
  data.foldl (fun h b => (h ^^^ b.toUInt32) * 16777619) 2166136261

/-! ### The manager -/

/-- The content of an address `AddConnection` has not used yet. -/
def unassigned : Client := newClient "" "" 0 0

/-- The fields of `Manager` the code reads; the rate limiters are answers of the
environment here (`Gateway.Server.Admission` adds them), the logger is left out. -/
structure Manager where
  shards : List Shard
  shardMask : UInt32
  config : Config
  globalConns : Int
  maxConns : Int
  /-- The clients made so far, at the addresses below `next`. -/
  heap : Ptr → Client
  next : Ptr
  /-- The calls of `onDisconnect(client, reason)`, in order. -/
  disconnects : List (Ptr × String)
  /-- `m.ctx` is done. -/
  cancelled : Bool
  /-- The counter of `m.wg`. -/
  wg : Nat

/-- `NewManager(cfg, logger)`, with the cleanup goroutine started. -/
def newManager (cfg : Config) : Manager :=
  let shardCount : UInt32 := UInt32.ofNat (cfg.shardCount % 2 ^ 32).toNat
  let shardCount := if shardCount = 0 then 64 else shardCount
  let shardCount := nextPowerOfTwo shardCount
  { shards := (List.range shardCount.toNat).map newShard, shardMask := shardCount - 1,
    config := cfg, globalConns := 0, maxConns := cfg.globalConnections,
    heap := fun _ => unassigned, next := 0, disconnects := [], cancelled := false, wg := 1 }

/-- `getShardID(key)`. -/
def Manager.getShardID (m : Manager) (key : String) : Nat :=
  (fnv32a (Json.utf8 key.data) &&& m.shardMask).toNat

/-- Some client the manager has made has this id. -/
def Manager.issued (m : Manager) (clientID : String) : Bool :=
  (List.range m.next).any fun q => (m.heap q).id == clientID

/-- The client at `p` after `f`. -/
def Manager.updateClient (m : Manager) (p : Ptr) (f : Client → Client) : Manager :=
  { m with heap := Function.update m.heap p (f (m.heap p)) }

/-- A pump of client `p` returns: its deferred `cleanup()`, then `m.wg.Done()`. -/
def Manager.pumpExit (m : Manager) (p : Ptr) : Manager :=
  { m.updateClient p Client.cleanup with wg := m.wg - 1 }

/-! ### Goroutines and their steps -/

/-- A goroutine, at a point between two of its steps. `pump` is the client
whose `ReadPump` called `RemoveClient` through `handleDisconnect`, if one did. -/
inductive Thread where
  /-- `AddConnection(conn, ip, ...)`, before its check of `globalConns`. -/
  | addCheck (ip : String)
  /-- Before `m.ipLimiter.Allow(ip)`. -/
  | addAllow (ip : String)
  /-- Before `uuid.New()` and `shard.AddClient`. -/
  | addRegister (ip : String)
  /-- Client `p` added, before `atomic.AddInt64(&m.globalConns, 1)`. -/
  | addCount (p : Ptr)
  /-- Before `m.wg.Add(2)` and the start of the pumps. -/
  | addStart (p : Ptr)
  /-- `AuthenticateClient(clientID, userID, deviceID)`, before `shard.GetClient`. -/
  | authLookup (clientID userID deviceID : String)
  /-- Client `p` found in shard `shard`, before `m.userLimiter.Allow(userID)`. -/
  | authAllow (shard : Nat) (p : Ptr) (userID deviceID : String)
  /-- Before `shard.RegisterAuthenticatedClient`. -/
  | authRegister (shard : Nat) (p : Ptr) (userID deviceID : String)
  /-- `SendToClient(clientID, message)`, before `shard.GetClient`. -/
  | sendLookup (clientID : String) (message : Bytes)
  /-- Before `client.WriteMessage(message)`. -/
  | sendWrite (p : Ptr) (message : Bytes)
  /-- `SendToUser(userID, message)`, before `BroadcastToUser` on shard `shard`. -/
  | broadcast (shard : Nat) (userID : String) (message : Bytes)
  /-- `BroadcastToUser` on shard `shard`, with the clients `ps` still to write to. -/
  | broadcastWrite (shard : Nat) (ps : List Ptr) (userID : String) (message : Bytes)
  /-- `RemoveClient(clientID, reason)`, before `shard.RemoveClient`. -/
  | removeShard (clientID reason : String) (pump : Option Ptr)
  /-- Client `p` removed, before `atomic.AddInt64(&m.globalConns, -1)`. -/
  | removeCount (p : Ptr) (reason : String) (pump : Option Ptr)
  /-- Before `client.Close(reason)`. -/
  | removeClose (p : Ptr) (reason : String) (pump : Option Ptr)
  /-- Before `m.onDisconnect(client, reason)`. -/
  | removeNotify (p : Ptr) (reason : String) (pump : Option Ptr)
  /-- `ReadPump` of client `p`, at the top of its loop. -/
  | readPump (p : Ptr)
  /-- `ReadPump` of client `p` after `closeHandler`, before `c.cleanup()`. -/
  | readCleanup (p : Ptr)
  /-- `WritePump` of client `p`, at its `select`. -/
  | writePump (p : Ptr)
  /-- The cleanup goroutine, at its `select`. -/
  | cleanupRoutine
  /-- `cleanupInactiveConnections`, before `CleanupInactive` on shard `shard`. -/
  | sweepShard (shard : Nat)
  /-- With the ids `ids` of shard `shard` still to count down. -/
  | sweepCount (shard : Nat) (ids : List String)
  /-- `clientID` counted down, before `shard.GetClient(clientID)`. -/
  | sweepLookup (shard : Nat) (clientID : String) (ids : List String)
  /-- `Shutdown()`, in `m.wg.Wait()`. -/
  | shutdownWait
  deriving DecidableEq

/-- What a step reads from outside the process. -/
inductive Env where
  /-- Nothing: the step reads nothing from outside. -/
  | quiet
  /-- A rate limiter's `Allow`. -/
  | allow (ok : Bool)
  /-- `uuid.New()` and `time.Now()`. -/
  | fresh (clientID : String) (now : Int)
  /-- `time.Now()`. -/
  | clock (now : Int)
  /-- `ReadMessage` returns a frame at `now`; the client's limiter answers
  `allowed`; the error frame, if one is built, gets this id and time (ms). -/
  | frame (now : Int) (allowed : Bool) (messageID : String) (nowMs : Int64)
  /-- `ReadMessage` returns an error. -/
  | readError
  /-- The `select` takes `ctx.Done()`. -/
  | done
  /-- The `select` takes a message from `Send`; `ok`: the frame is written. -/
  | recv (ok : Bool)
  /-- The `select` takes a tick; `ok`: the ping, if one is sent, is written. -/
  | tick (ok : Bool)

/-- Where a `RemoveClient` returns to. -/
def afterRemove : Option Ptr → List Thread
  | none => []
  | some p => [.readCleanup p]

/-- One step of a goroutine: the manager after it and the goroutines it
becomes (none when it returns, two when it starts the pumps). -/
def exec (t : Thread) (e : Env) (m : Manager) : Option (Manager × List Thread) :=
  match t with
  | .addCheck ip => some (m, if m.globalConns ≥ m.maxConns then [] else [.addAllow ip])
  | .addAllow ip =>
    match e with
    | .allow ok => some (m, if ok then [.addRegister ip] else [])
    | _ => none
  | .addRegister ip =>
    match e with
    | .fresh clientID now =>
      if m.issued clientID then none
      else
        let i := m.getShardID clientID
        (m.shards[i]?).map fun s =>
          let heap := Function.update m.heap m.next (newClient clientID ip i now)
          ({ m with shards := m.shards.set i (s.addClient heap m.next), heap, next := m.next + 1 },
            [.addCount m.next])
    | _ => none
  | .addCount p => some ({ m with globalConns := m.globalConns + 1 }, [.addStart p])
  | .addStart p => some ({ m with wg := m.wg + 2 }, [.readPump p, .writePump p])
  | .authLookup clientID userID deviceID =>
    let i := m.getShardID clientID
    (m.shards[i]?).map fun s =>
      (m, match s.getClient clientID with
        | none => []
        | some p => [.authAllow i p userID deviceID])
  | .authAllow i p userID deviceID =>
    match e with
    | .allow ok => some (m, if ok then [.authRegister i p userID deviceID] else [])
    | _ => none
  | .authRegister i p userID deviceID =>
    (m.shards[i]?).map fun s =>
      let r := s.registerAuthenticatedClient m.heap p userID deviceID
      ({ m with shards := m.shards.set i r.1, heap := r.2 }, [])
  | .sendLookup clientID message =>
    let i := m.getShardID clientID
    (m.shards[i]?).map fun s =>
      (m, match s.getClient clientID with
        | none => []
        | some p => [.sendWrite p message])
  | .sendWrite p message => some (m.updateClient p (·.enqueue message), [])
  | .broadcast i userID message =>
    match m.shards[i]? with
    | none => some (m, [])
    | some s => some (m, [.broadcastWrite i (s.getUserClients userID) userID message])
  | .broadcastWrite i ps userID message =>
    match ps with
    | [] => some (m, [.broadcast (i + 1) userID message])
    | p :: ps => some (m.updateClient p (·.enqueue message), [.broadcastWrite i ps userID message])
  | .removeShard clientID reason pump =>
    let i := m.getShardID clientID
    (m.shards[i]?).map fun s =>
      let r := s.removeClient m.heap clientID
      ({ m with shards := m.shards.set i r.1 },
        match r.2 with
        | none => afterRemove pump
        | some p => [.removeCount p reason pump])
  | .removeCount p reason pump =>
    some ({ m with globalConns := m.globalConns - 1 }, [.removeClose p reason pump])
  | .removeClose p reason pump => some (m.updateClient p Client.close, [.removeNotify p reason pump])
  | .removeNotify p reason pump =>
    some ({ m with disconnects := m.disconnects ++ [(p, reason)] }, afterRemove pump)
  | .readPump p =>
    match e with
    | .frame now allowed messageID nowMs =>
      if (m.heap p).closing then none
      else
        let c := { m.heap p with lastActivity := now }
        let c := if allowed then c else c.enqueue (rateLimitBytes messageID nowMs)
        some (m.updateClient p fun _ => c, [.readPump p])
    | .readError => some (m, [.removeShard (m.heap p).id "client_disconnected" (some p)])
    | .done =>
      if (m.heap p).closing then some (m, [.removeShard (m.heap p).id "client_disconnected" (some p)])
      else none
    | _ => none
  | .readCleanup p => some (m.pumpExit p, [])
  | .writePump p =>
    match e with
    | .done => if (m.heap p).closing then some (m.pumpExit p, []) else none
    | .recv ok =>
      match (m.heap p).send with
      | [] => if (m.heap p).closing then some (m.pumpExit p, []) else none
      | msg :: rest =>
        if ok && !(m.heap p).closing then
          some (m.updateClient p (fun c => { c with send := [], wire := c.wire ++ [msg :: rest] }),
            [.writePump p])
        else some ((m.updateClient p fun c => { c with send := rest }).pumpExit p, [])
    | .tick ok => if ok && !(m.heap p).closing then some (m, [.writePump p]) else some (m.pumpExit p, [])
    | _ => none
  | .cleanupRoutine =>
    match e with
    | .done => if m.cancelled then some ({ m with wg := m.wg - 1 }, []) else none
    | .tick _ => some (m, [.sweepShard 0])
    | _ => none
  | .sweepShard i =>
    match e with
    | .clock now =>
      match m.shards[i]? with
      | none => some (m, [.cleanupRoutine])
      | some s =>
        let r := s.cleanupInactive m.heap (m.config.pongWait * 2) now
        some ({ m with shards := m.shards.set i r.1 }, [.sweepCount i r.2])
    | _ => none
  | .sweepCount i ids =>
    match ids with
    | [] => some (m, [.sweepShard (i + 1)])
    | clientID :: ids =>
      some ({ m with globalConns := m.globalConns - 1 }, [.sweepLookup i clientID ids])
  | .sweepLookup i clientID ids =>
    match (m.shards[i]?).bind (·.getClient clientID) with
    | some p =>
      some ({ m with disconnects := m.disconnects ++ [(p, "inactive_timeout")] }, [.sweepCount i ids])
    | none => some (m, [.sweepCount i ids])
  | .shutdownWait => if m.wg = 0 then some (m, []) else none

/-- A call of the manager's API from another goroutine. -/
inductive Call where
  | addConnection (ip : String)
  | authenticateClient (clientID userID deviceID : String)
  | sendToClient (clientID : String) (message : Bytes)
  | sendToUser (userID : String) (message : Bytes)
  | removeClient (clientID reason : String)
  | shutdown

/-- The goroutine a call starts as; `Shutdown` cancels the context first. -/
def Call.start : Call → Manager → Manager × Thread
  | .addConnection ip, m => (m, .addCheck ip)
  | .authenticateClient clientID userID deviceID, m => (m, .authLookup clientID userID deviceID)
  | .sendToClient clientID message, m => (m, .sendLookup clientID message)
  | .sendToUser userID message, m => (m, .broadcast 0 userID message)
  | .removeClient clientID reason, m => (m, .removeShard clientID reason none)
  | .shutdown, m => ({ m with cancelled := true }, .shutdownWait)

end Connection
end Gateway
