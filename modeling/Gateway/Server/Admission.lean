import Gateway.Connection.System
import Gateway.Connection.Limiter
import Gateway.Server.WebSocket

/-
# Admission under the rate limiters

`Gateway.Connection.System` leaves the answers of `Allow()` to the
environment. `LimSys` adds what gives them: the two limiters `NewManager`
makes (`ipLimiter` with rate `ConnectionsPerUser` and burst `Burst`,
`userLimiter` with rate and burst `ConnectionsPerUser`) and a clock. Time
passes (`wait`); a request reaches `ServeHTTP`, which starts `AddConnection`;
a call starts; a goroutine takes a step, reading the clock where it reads the
time, except at `AddConnection`'s `ipLimiter.Allow(ip)` and
`AuthenticateClient`'s `userLimiter.Allow(userID)`, where the limiter
answers and changes.

Every step of `LimSys` is a step of `Sys` or leaves it as it was
(`LimStep.sys`), so every state it reaches is reachable there
(`LimReachable.sys_reachable`) and every invariant of `Gateway.Connection` holds
of it.

Only those two steps change a limiter: `RemoveClient`, the sweep and a
failed authentication give no token back. In every run the user limiter stays
sound, and it admits a user one second after the user's last admission,
however many of the user's sessions are open (`userLimiter_admits_after_second`).
This holds of `x/time/rate` as well as of the exact model of
`Gateway.Connection.Limiter`: at a rate `r ≥ 1` with a burst of `r`, a second
refills `r` whole tokens, at least the one the call takes, so the debt the
last allowed call left is never exceeded.

Key definitions: `LimSys`, `LimStep`, `Manager.sessionsOf`. Key theorems:
`LimReachable.sys_reachable`, `userLimiter_admits_after_second`,
`sessions_exceed_connectionsPerUser`, `requests_exceed_maxConnsPerIP`.
-/

namespace Gateway

namespace Connection

/-- The time an answer of the environment carries. -/
def Env.time? : Env → Option Int
  | .fresh _ now | .clock now | .frame now .. => some now
  | _ => none

/-- The steps that ask a limiter. -/
def Thread.asksLimiter : Thread → Bool
  | .addAllow _ | .authAllow .. => true
  | _ => false

/-- The clients in the shards' `clients` maps authenticated as `userID`. -/
def Manager.sessionsOf (m : Manager) (userID : String) : Nat :=
  (m.shards.map fun sh =>
    (sh.clients.entries.filter fun e => (m.heap e.2).authenticated && (m.heap e.2).userID == userID).length).sum

end Connection

namespace Server

open Connection

/-! ### The process with its limiters -/

/-- The process, the two limiters of `NewManager` and the clock (ns). -/
structure LimSys where
  sys : Sys
  ipLimiter : KeyedLimiter
  userLimiter : KeyedLimiter
  now : Int

/-- `NewManager(cfg)` at time `now`, with its limiters (`manager.go:71-79`). -/
def LimSys.init (cfg : Config) (now : Int) : LimSys where
  sys := Connection.init cfg
  ipLimiter := newIPRateLimiter cfg.connectionsPerUser cfg.burst
  userLimiter := newUserRateLimiter cfg.connectionsPerUser cfg.connectionsPerUser
  now := now

/-- One step of the process with its limiters. -/
inductive LimStep : LimSys → LimSys → Prop
  | wait (s : LimSys) (d : Nat) : LimStep s { s with now := s.now + d }
  | request (s : LimSys) (r : Request) (c : Call) (sys : Sys) :
      serveHTTP r = some c → s.sys.move (.call c) = some sys → LimStep s { s with sys }
  | call (s : LimSys) (c : Call) (sys : Sys) :
      s.sys.move (.call c) = some sys → LimStep s { s with sys }
  | run (s : LimSys) (i : Nat) (t : Thread) (e : Env) (sys : Sys) :
      s.sys.threads[i]? = some t → t.asksLimiter = false → (e.time?).all (· = s.now) →
      s.sys.move (.run i e) = some sys → LimStep s { s with sys }
  | addAllow (s : LimSys) (i : Nat) (ip : String) (sys : Sys) :
      s.sys.threads[i]? = some (.addAllow ip) →
      s.sys.move (.run i (.allow (s.ipLimiter.allow ip s.now).1)) = some sys →
      LimStep s { s with sys, ipLimiter := (s.ipLimiter.allow ip s.now).2 }
  | authAllow (s : LimSys) (i j : Nat) (p : Ptr) (userID deviceID : String) (sys : Sys) :
      s.sys.threads[i]? = some (.authAllow j p userID deviceID) →
      s.sys.move (.run i (.allow (s.userLimiter.allow userID s.now).1)) = some sys →
      LimStep s { s with sys, userLimiter := (s.userLimiter.allow userID s.now).2 }

/-- The states some run from `LimSys.init cfg start` reaches. -/
def LimReachable (cfg : Config) (start : Int) (s : LimSys) : Prop :=
  Relation.ReflTransGen LimStep (LimSys.init cfg start) s

/-! ### Concrete runs -/

/-- A move of a concrete run with the limiters: time passes, a request, a
call, or a step of the goroutine at index `i`. -/
inductive LMove where
  | wait (d : Nat)
  | request (r : Request)
  | call (c : Call)
  | run (i : Nat) (e : Env)

/-- The state after a move, if it can be made; at `Allow()` the limiter
answers, whatever `e` says. -/
def LimSys.move (s : LimSys) : LMove → Option LimSys
  | .wait d => some { s with now := s.now + d }
  | .request r => (serveHTTP r).bind fun c => (s.sys.move (.call c)).map fun sys => { s with sys }
  | .call c => (s.sys.move (.call c)).map fun sys => { s with sys }
  | .run i e =>
    match s.sys.threads[i]? with
    | some (.addAllow ip) =>
      (s.sys.move (.run i (.allow (s.ipLimiter.allow ip s.now).1))).map fun sys =>
        { s with sys, ipLimiter := (s.ipLimiter.allow ip s.now).2 }
    | some (.authAllow _ _ userID _) =>
      (s.sys.move (.run i (.allow (s.userLimiter.allow userID s.now).1))).map fun sys =>
        { s with sys, userLimiter := (s.userLimiter.allow userID s.now).2 }
    | _ => if (e.time?).all (· = s.now) then (s.sys.move (.run i e)).map fun sys => { s with sys }
      else none

/-- The state after a list of moves. -/
def LimSys.moves (s : LimSys) : List LMove → Option LimSys
  | [] => some s
  | mv :: mvs => (s.move mv).bind (·.moves mvs)

theorem LimSys.step_of_move {s s' : LimSys} {mv : LMove} (h : s.move mv = some s') :
    LimStep s s' := by
  cases mv with
  | wait d => cases h; exact .wait s d
  | request r =>
    simp only [LimSys.move] at h
    obtain ⟨c, hc, h⟩ := Option.bind_eq_some.mp h
    obtain ⟨sys, hm, rfl⟩ := Option.map_eq_some'.mp h
    exact .request s r c sys hc hm
  | call c =>
    simp only [LimSys.move] at h
    obtain ⟨sys, hm, rfl⟩ := Option.map_eq_some'.mp h
    exact .call s c sys hm
  | run i e =>
    simp only [LimSys.move] at h
    split at h
    · next ip hi =>
      obtain ⟨sys, hm, rfl⟩ := Option.map_eq_some'.mp h
      exact .addAllow s i ip sys hi hm
    · next j p u d hi =>
      obtain ⟨sys, hm, rfl⟩ := Option.map_eq_some'.mp h
      exact .authAllow s i j p u d sys hi hm
    · next hadd hauth =>
      split_ifs at h with ht
      obtain ⟨sys, hm, rfl⟩ := Option.map_eq_some'.mp h
      cases hi : s.sys.threads[i]? with
      | none => simp [Sys.move, hi] at hm
      | some t =>
        refine .run s i t e sys hi ?_ ht hm
        cases t <;> first | rfl | exact (hadd _ hi).elim | exact (hauth _ _ _ _ hi).elim

theorem LimSys.reach_of_moves {s : LimSys} :
    ∀ {mvs : List LMove} {s' : LimSys}, s.moves mvs = some s' → Relation.ReflTransGen LimStep s s'
  | [], _, h => by cases h; exact .refl
  | _ :: _, _, h => by
    obtain ⟨s₁, h₁, h₂⟩ := Option.bind_eq_some.mp h
    exact .head (LimSys.step_of_move h₁) (LimSys.reach_of_moves h₂)

/-- The state a concrete run from `LimSys.init cfg start` ends in. -/
def limRunOf (cfg : Config) (start : Int) (mvs : List LMove) : LimSys :=
  ((LimSys.init cfg start).moves mvs).getD (LimSys.init cfg start)

theorem limReachable_runOf {cfg : Config} {start : Int} {mvs : List LMove}
    (h : ((LimSys.init cfg start).moves mvs).isSome) : LimReachable cfg start (limRunOf cfg start mvs) := by
  obtain ⟨s, hs⟩ := Option.isSome_iff_exists.mp h
  rw [limRunOf, hs]
  exact LimSys.reach_of_moves hs

/-- `ServeHTTP` of `r` from the request to `AddConnection`'s return, with `n`
goroutines running before it; the client gets `clientID` at `now`. -/
def admitMoves (n : Nat) (r : Request) (clientID : String) (now : Int) : List LMove :=
  [.request r, .run n .quiet, .run n .quiet, .run n (.fresh clientID now), .run n .quiet,
    .run n .quiet]

/-- `AuthenticateClient` from call to return, with `n` goroutines running before it. -/
def authMoves (n : Nat) (clientID userID deviceID : String) : List LMove :=
  [.call (.authenticateClient clientID userID deviceID), .run n .quiet, .run n .quiet, .run n .quiet]

/-- `RateLimit.ConnectionsPerUser = 1`, which `validateConfig` accepts. -/
def onePerUserConfig : Config := { smallConfig with connectionsPerUser := 1 }

/-- Two sessions of user `u1`, authenticated one second apart. -/
def twoSessionsRun : List LMove :=
  admitMoves 1 ⟨"10.0.0.1:50000", ""⟩ "c1" 0 ++ authMoves 3 "c1" "u1" "d1" ++ [.wait (10 ^ 9)] ++
    admitMoves 3 ⟨"10.0.0.2:50000", ""⟩ "c2" (10 ^ 9) ++ authMoves 5 "c2" "u1" "d2"

/-- **A step with the limiters is a step without them**, or none. -/
theorem LimStep.sys {s s' : LimSys} (h : LimStep s s') :
    Relation.ReflGen Step s.sys s'.sys := by
  cases h
  case wait => exact .refl
  all_goals exact .single (Sys.step_of_move (by assumption))

/-- **Every state reached with the limiters is reachable without them.** -/
theorem LimReachable.sys_reachable {cfg : Config} {start : Int} {s : LimSys}
    (h : LimReachable cfg start s) : Reachable cfg s.sys := by
  induction h with
  | refl => exact .refl
  | tail _ hst ih => exact ih.trans hst.sys.to_reflTransGen

/-! ### What the limiters admit -/

/-- Only `AuthenticateClient`'s `Allow` changes the user limiter. -/
theorem LimStep.userLimiter {s s' : LimSys} (h : LimStep s s') :
    s'.userLimiter = s.userLimiter ∨ ∃ u, s'.userLimiter = (s.userLimiter.allow u s.now).2 := by
  cases h with
  | authAllow _ _ _ u => exact .inr ⟨u, rfl⟩
  | _ => exact .inl rfl

/-- In every run the user limiter keeps the rate and burst `NewManager` gave
it, and its buckets stay sound. -/
theorem userLimiter_sound {cfg : Config} {start : Int} (hc : 1 ≤ cfg.connectionsPerUser)
    {s : LimSys} (h : LimReachable cfg start s) :
    s.userLimiter.limit = cfg.connectionsPerUser ∧ s.userLimiter.burst = cfg.connectionsPerUser ∧
      s.userLimiter.Sound := by
  induction h with
  | refl => exact ⟨rfl, rfl, newUserRateLimiter_sound _ _⟩
  | tail _ hst ih =>
    obtain ⟨hl, hb, hs⟩ := ih
    rcases hst.userLimiter with he | ⟨u, he⟩ <;> rw [he]
    · exact ⟨hl, hb, hs⟩
    · exact ⟨hl, hb, hs.allow (by omega) (by omega) u _⟩

/-- **The user limiter admits a user one second after the user's last
admission**, in every run and whatever sessions of that user are open, for
`ConnectionsPerUser ≥ 1`: it limits the rate of authentications, not the
sessions open at once. -/
theorem userLimiter_admits_after_second {cfg : Config} {start : Int}
    (hc : 1 ≤ cfg.connectionsPerUser) {s : LimSys} (h : LimReachable cfg start s) (u : String)
    (hq : ∀ lim, s.userLimiter.buckets.lookup u = some lim → lim.last + 10 ^ 9 ≤ s.now) :
    (s.userLimiter.allow u s.now).1 = true := by
  obtain ⟨hl, hb, hs⟩ := userLimiter_sound hc h
  exact KeyedLimiter.allow_after_second hs (by omega) (by omega) hq

/-- The first session of `u1` opened, then a second passed. -/
def firstSessionRun : List LMove :=
  admitMoves 1 ⟨"10.0.0.1:50000", ""⟩ "c1" 0 ++ authMoves 3 "c1" "u1" "d1" ++ [.wait (10 ^ 9)]

theorem userLimiter_admits_after_first :
    1 ≤ onePerUserConfig.connectionsPerUser ∧
      LimReachable onePerUserConfig 0 (limRunOf onePerUserConfig 0 firstSessionRun) ∧
      (limRunOf onePerUserConfig 0 firstSessionRun).sys.mgr.sessionsOf "u1" = 1 ∧
      ((limRunOf onePerUserConfig 0 firstSessionRun).userLimiter.allow "u1"
        (limRunOf onePerUserConfig 0 firstSessionRun).now).1 = true := by
  have h : LimReachable onePerUserConfig 0 (limRunOf onePerUserConfig 0 firstSessionRun) :=
    limReachable_runOf rfl
  refine ⟨by decide, h, by decide, userLimiter_admits_after_second (by decide) h "u1" ?_⟩
  intro lim hl
  rw [show (limRunOf onePerUserConfig 0 firstSessionRun).userLimiter.buckets.lookup "u1" =
    some ⟨1, 1, 0, 0⟩ from rfl] at hl
  cases hl
  decide

/-- `Server.MaxConnsPerIP = 2`, the spec's example, which `validateConfig` accepts. -/
def twoPerIPConfig : Config := { smallConfig with maxConnsPerIP := 2 }

/-- A request from peer `1.2.3.4:40000` with the header `X-Forwarded-For: xff`. -/
def peerRequest (xff : String) : Request := ⟨"1.2.3.4:40000", xff⟩

/-- The first request of the peer, admitted. -/
def firstPeerRun : List LMove := admitMoves 1 (peerRequest "10.0.0.1") "c1" 0

/-! ### A user's sessions -/

/-- **Two sessions open with `ConnectionsPerUser = 1`**: the second
authentication, a second after the first, finds a refilled token, and both
clients stay in the `clients` maps authenticated as `u1`. -/
theorem sessions_exceed_connectionsPerUser :
    validateConfig onePerUserConfig = .ok () ∧
      LimReachable onePerUserConfig 0 (limRunOf onePerUserConfig 0 twoSessionsRun) ∧
      (limRunOf onePerUserConfig 0 twoSessionsRun).sys.mgr.sessionsOf "u1" = 2 ∧
      onePerUserConfig.connectionsPerUser = 1 :=
  ⟨rfl, limReachable_runOf rfl, by decide, rfl⟩

/-! ### Requests from one peer -/

/-- Three requests from one peer at one instant, each with its own header. -/
def threeRequestsRun : List LMove :=
  firstPeerRun ++ admitMoves 3 (peerRequest "10.0.0.2") "c2" 0 ++
    admitMoves 5 (peerRequest "10.0.0.3") "c3" 0

/-- **Three connections from one peer with `MaxConnsPerIP = 2`**: all three
requests reach `AddConnection`, at time 0, and all three clients are
registered. -/
theorem requests_exceed_maxConnsPerIP :
    validateConfig twoPerIPConfig = .ok () ∧
      LimReachable twoPerIPConfig 0 (limRunOf twoPerIPConfig 0 threeRequestsRun) ∧
      (limRunOf twoPerIPConfig 0 threeRequestsRun).now = 0 ∧
      ((limRunOf twoPerIPConfig 0 threeRequestsRun).sys.mgr.shards.map Shard.clientCount).sum = 3 ∧
      (limRunOf twoPerIPConfig 0 threeRequestsRun).sys.mgr.globalConns = 3 ∧
      twoPerIPConfig.maxConnsPerIP = 2 :=
  ⟨rfl, limReachable_runOf rfl, rfl, by decide, by decide, rfl⟩

end Server
end Gateway
