import Gateway.Connection.Queue
import Gateway.Connection.System

/-
# The manager's steps on a client's queue are runs of the queue

`Gateway.Connection.Manager` takes each call of a client method as one step
(`WriteMessage`, `Close`, `cleanup`, `SetAuthenticated`, the `LastActivity`
stamp of `ReadPump`) and a whole iteration of `WritePump` as one more: the
message received, the drain of everything buffered, and the frame written.
`Gateway.Connection.Queue` has each of them as the goroutine steps the code
makes. A queue mirrors a client (`Mirrors`) when it has the client's
`closing` flag, buffer and frames, `close(c.Send)` has run once exactly when
the flag is set, no producer is inside `WriteMessage`, and the pump is at its
`select` or has finished.

Each step of the manager, on any client but the one it creates, takes a
mirror of the client to a mirror of the client after the step by a run of
`OutStep`s (`exec_refines_outbound`): a method call is the run of that call
(`Mirrors.apply`), and an iteration of `WritePump` is the pump's receive, its
`NextWriter`, its drain and its `w.Close` (`Mirrors.writePump`). So the
manager model's queue steps are schedules the code has, and what
`queue_lossless_fifo` says of every run of the queue holds of them.

Key definitions: `Mirrors`, `ClientOp`. Key theorems: `Mirrors.apply`,
`Mirrors.writePump`, `exec_refines_outbound`.
-/

namespace Gateway
namespace Connection

/-! ### Mirrors -/

/-- The queue `q` is client `c`'s, with no `WriteMessage` under way and the
pump at its `select` or finished. -/
structure Mirrors (q : Outbound) (c : Client) : Prop where
  closing : q.closing = c.closing
  closes : q.closes = if c.closing then 1 else 0
  buf : q.buf = c.send
  wire : q.wire = c.wire.map joinNL
  idle : q.producers = []
  pump : q.pump = .select ∨ q.pump = .finished

/-- The queue of client `c` with its pump at the `select`: what it accepted is
in its frames, then in its buffer. -/
def Client.toOutbound (c : Client) : Outbound :=
  { closing := c.closing, buf := c.send, closes := if c.closing then 1 else 0, lateSends := 0,
    accepted := c.wire.flatten ++ c.send, wire := c.wire.map joinNL, pump := .select,
    producers := [] }

theorem mirrors_toOutbound (c : Client) : Mirrors c.toOutbound c :=
  ⟨rfl, rfl, rfl, rfl, rfl, .inl rfl⟩

/-- A method of a client that another goroutine calls: `WriteMessage`,
`Close` or `cleanup`, the `LastActivity` stamp of `ReadPump`, or
`SetAuthenticated`. -/
inductive ClientOp where
  | writeMessage (message : Bytes)
  | close
  | stamp (now : Int)
  | setAuthenticated (userID deviceID : String)

/-- The client after the method. -/
def ClientOp.apply : ClientOp → Client → Client
  | .writeMessage message, c => c.enqueue message
  | .close, c => c.close
  | .stamp now, c => { c with lastActivity := now }
  | .setAuthenticated userID deviceID, c => c.setAuthenticated userID deviceID

/-! ### A method call is a run -/

section Methods

variable {q : Outbound} {c : Client}

/-- A client that differs only in what the queue does not hold has the same mirrors. -/
theorem Mirrors.congr (hm : Mirrors q c) {c' : Client} (h1 : c'.closing = c.closing)
    (h2 : c'.send = c.send) (h3 : c'.wire = c.wire) : Mirrors q c' :=
  ⟨h1 ▸ hm.closing, h1 ▸ hm.closes, h2 ▸ hm.buf, h3 ▸ hm.wire, hm.idle, hm.pump⟩

theorem Mirrors.close_close (hm : Mirrors q c) : Mirrors q.close c.close := by
  refine ⟨by simp, ?_, by simp [hm.buf], by simp [hm.wire], by simp [hm.idle],
    by simpa using hm.pump⟩
  rw [Outbound.close_closes, hm.closes, hm.closing, Client.close_closing]
  cases c.closing <;> rfl

/-- `Close(reason)` or `cleanup()` from another goroutine: one section under
the write lock, which no producer holds. -/
theorem Mirrors.close (hm : Mirrors q c) :
    ∃ q', Relation.ReflTransGen OutStep q q' ∧ Mirrors q' c.close ∧ q'.pump = q.pump :=
  ⟨q.close, .single (.close q fun p hp => by simp [hm.idle] at hp), hm.close_close, by simp⟩

/-- `WriteMessage(message)` from a new goroutine: its call, its check of
`closing` under the read lock, and, on an open client, its `select` send. -/
theorem Mirrors.writeMessage (hm : Mirrors q c) (message : Bytes) :
    ∃ q', Relation.ReflTransGen OutStep q q' ∧ Mirrors q' (c.enqueue message) ∧
      q'.pump = q.pump := by
  have call := OutStep.call q message
  cases hc : c.closing
  · refine ⟨_, .tail (.tail (.single call) (.check _ [] [] message (by simp [hm.idle])))
      (.send _ [] [] message (by simp [hm.closing, hc])), ?_⟩
    have h0 : ¬0 < q.closes := by simp [hm.closes, hc]
    by_cases hlen : c.send.length < sendBufferSize
    · simp only [Client.enqueue, Client.writeMessage, hc, hlen, Outbound.send, h0, hm.buf, if_true,
        if_false, Bool.false_eq_true]
      refine ⟨⟨?_, ?_, ?_, ?_, rfl, hm.pump⟩, trivial⟩ <;> simp [hm.closing, hm.closes, hm.wire, hc]
    · simp only [Client.enqueue, Client.writeMessage, hc, hlen, Outbound.send, h0, hm.buf, if_false,
        Bool.false_eq_true]
      refine ⟨⟨?_, ?_, ?_, ?_, rfl, hm.pump⟩, trivial⟩ <;> simp [hm.closing, hm.closes, hm.wire, hc]
  · refine ⟨_, .tail (.single call) (.check _ [] [] message (by simp [hm.idle])), ?_, rfl⟩
    simp only [Client.enqueue, Client.writeMessage, hc, if_true]
    exact ⟨hm.closing, hm.closes, hm.buf, hm.wire, by simp [hm.closing, hc], hm.pump⟩

/-- **A method call is a run of the queue.** -/
theorem Mirrors.apply (hm : Mirrors q c) (op : ClientOp) :
    ∃ q', Relation.ReflTransGen OutStep q q' ∧ Mirrors q' (op.apply c) ∧ q'.pump = q.pump := by
  cases op with
  | writeMessage message => exact hm.writeMessage message
  | close => exact hm.close
  | stamp now => exact ⟨q, .refl, hm.congr rfl rfl rfl, rfl⟩
  | setAuthenticated userID deviceID => exact ⟨q, .refl, hm.congr rfl rfl rfl, rfl⟩

theorem Mirrors.applyAll : ∀ (ops : List ClientOp) {q : Outbound} {c : Client}, Mirrors q c →
    ∃ q', Relation.ReflTransGen OutStep q q' ∧
      Mirrors q' (ops.foldl (fun c op => op.apply c) c) ∧ q'.pump = q.pump
  | [], q, _, hm => ⟨q, .refl, hm, rfl⟩
  | op :: ops, _, _, hm => by
    obtain ⟨q₁, h₁, hm₁, hp₁⟩ := hm.apply op
    obtain ⟨q₂, h₂, hm₂, hp₂⟩ := Mirrors.applyAll ops hm₁
    exact ⟨q₂, h₁.trans h₂, hm₂, hp₂.trans hp₁⟩

end Methods

/-! ### What a step does to a client -/

theorem Manager.updateClient_heap (m : Manager) (p : Ptr) (f : Client → Client) (p' : Ptr) :
    (m.updateClient p f).heap p' = if p' = p then f (m.heap p) else m.heap p' := by
  simp only [Manager.updateClient, Function.update_apply]

theorem Manager.pumpExit_heap (m : Manager) (p p' : Ptr) :
    (m.pumpExit p).heap p' = if p' = p then (m.heap p).close else m.heap p' :=
  m.updateClient_heap p Client.cleanup p'

/-- An update of client `p` by a sequence of methods is one on every client. -/
theorem Manager.updateClient_ops (m : Manager) (p : Ptr) {f : Client → Client} (ops : List ClientOp)
    (hf : ∀ c, f c = ops.foldl (fun c op => op.apply c) c) (p' : Ptr) :
    ∃ ops' : List ClientOp,
      (m.updateClient p f).heap p' = ops'.foldl (fun c op => op.apply c) (m.heap p') := by
  rw [Manager.updateClient_heap]
  split_ifs with h
  · subst h; exact ⟨ops, hf _⟩
  · exact ⟨[], rfl⟩

/-- **A step is a sequence of method calls on each client** but the one it
creates, unless it is the client's own `WritePump`. -/
theorem exec_heap_ops {t : Thread} {e : Env} {m m' : Manager} {ts : List Thread}
    (h : exec t e m = some (m', ts)) {p : Ptr} (hp : p ≠ m.next) (ht : t ≠ .writePump p) :
    ∃ ops : List ClientOp, m'.heap p = ops.foldl (fun c op => op.apply c) (m.heap p) := by
  cases exec_sound h
  case addRegister => exact ⟨[], Function.update_noteq hp _ _⟩
  case authRegister => exact Manager.updateClient_ops m _ [.setAuthenticated _ _] (fun _ => rfl) p
  case sendWrite | broadcastWrite =>
    exact Manager.updateClient_ops m _ [.writeMessage _] (fun _ => rfl) p
  case removeClose | readCleanup => exact Manager.updateClient_ops m _ [.close] (fun _ => rfl) p
  case readAllowed => exact Manager.updateClient_ops m _ [.stamp _] (fun _ => rfl) p
  case readLimited => exact Manager.updateClient_ops m _ [.stamp _, .writeMessage _] (fun _ => rfl) p
  -- another client's `WritePump`
  case writeDone | writeDrained | writeFrame | writeFailed | writeTickFailed =>
    simp only [ne_eq, Thread.writePump.injEq] at ht
    exact ⟨[], by simp [Manager.pumpExit_heap, Manager.updateClient_heap, Ne.symm ht]⟩
  -- no client touched
  all_goals exact ⟨[], rfl⟩

/-! ### An iteration of `WritePump` is a run -/

/-- The drain loop: each receive, after a newline, takes the oldest buffered
message into the frame. -/
theorem drain_run (ys : List Bytes) : ∀ (xs : List Bytes) (q : Outbound) {b : List Bytes},
    b ≠ [] → q.pump = .draining (joinNL b) xs.length → q.buf = xs ++ ys →
    Relation.ReflTransGen OutStep q { q with buf := ys, pump := .draining (joinNL (b ++ xs)) 0 }
  | [], q, b, _, hp, hb => by
    simp only [List.nil_append, List.length_nil] at hp hb
    simp only [List.append_nil, ← hp, ← hb]
    exact .refl
  | x :: xs, q, b, hne, hp, hb => by
    have hstep : q.writePump .recv =
        some { q with buf := xs ++ ys, pump := .draining (joinNL (b ++ [x])) xs.length } := by
      simp [Outbound.writePump, hp, Outbound.recv, hb, joinNL_append hne]
    rw [List.append_cons]
    exact .head (.pump _ _ _ hstep) (drain_run ys xs _ (by simp) rfl rfl)

/-- The pump returns, and its deferred `cleanup` runs: no producer holds the
read lock. -/
theorem Mirrors.exit {q : Outbound} {c : Client} (hm : Mirrors q c) :
    Relation.ReflTransGen OutStep { q with pump := .returned } { q.close with pump := .finished } ∧
      Mirrors { q.close with pump := .finished } c.close := by
  have hc := hm.close_close
  refine ⟨.single (.pump _ _ .recv ?_), ⟨hc.closing, hc.closes, hc.buf, hc.wire, hc.idle, .inr rfl⟩⟩
  simp [Outbound.writePump, Outbound.unlocked, hm.idle, Outbound.close_setPump,
    Outbound.close_closes]

/-- A pump step to the return, then the deferred `cleanup`. -/
theorem Mirrors.pumpReturn {q : Outbound} {c : Client} {e : PumpEnv} (hm : Mirrors q c)
    (h : q.writePump e = some { q with pump := .returned }) :
    ∃ q', Relation.ReflTransGen OutStep q q' ∧ Mirrors q' c.close :=
  ⟨_, .head (.pump _ _ _ h) hm.exit.1, hm.exit.2⟩

/-- The pump's receive of the oldest message buffered. -/
theorem Mirrors.recv_cons {q : Outbound} {c : Client} (hm : Mirrors q c) (hs : q.pump = .select)
    {msg : Bytes} {rest : List Bytes} (hb : c.send = msg :: rest) :
    q.writePump .recv = some { q with buf := rest, pump := .received msg } := by
  simp [Outbound.writePump, hs, Outbound.recv, hm.buf, hb]

/-- **An iteration of `WritePump` is a run of the queue**: the manager's step
of client `p`'s `WritePump`, from a mirror with the pump at its `select`. -/
theorem Mirrors.writePump {m m' : Manager} {p : Ptr} {e : Env} {ts : List Thread} {q : Outbound}
    (h : exec (.writePump p) e m = some (m', ts)) (hm : Mirrors q (m.heap p))
    (hs : q.pump = .select) :
    ∃ q', Relation.ReflTransGen OutStep q q' ∧ Mirrors q' (m'.heap p) := by
  cases exec_sound h
  case writeDone hc =>
    -- `ctx.Done()`
    have hdone : q.writePump .done = some { q with pump := .returned } := by
      simp [Outbound.writePump, hs, hm.closing, hc]
    simpa [Manager.pumpExit_heap] using hm.pumpReturn hdone
  case writeDrained ok hb hc =>
    -- a closed and empty `c.Send`
    have hrecv : q.writePump .recv = some { q with pump := .returned } := by
      simp [Outbound.writePump, hs, Outbound.recv, hm.buf, hb, hm.closes, hc]
    simpa [Manager.pumpExit_heap] using hm.pumpReturn hrecv
  case writeFrame ok msg rest hb hok =>
    -- `NextWriter`, the message, the drain of `rest`, and `w.Close`, all written
    have hopen : ({ q with buf := rest, pump := .received msg } : Outbound).writePump
        (.socket true) = some { q with buf := rest, pump := .opened msg } := rfl
    have hlen : ({ q with buf := rest, pump := .opened msg } : Outbound).writePump .recv =
        some { q with buf := rest, pump := .draining (joinNL [msg]) rest.length } := by
      simp [Outbound.writePump, joinNL_singleton]
    have hdrain := drain_run [] rest
      { q with buf := rest, pump := .draining (joinNL [msg]) rest.length } (by simp) rfl
      (by simp)
    have hclose : ({ q with buf := [], pump := .draining (joinNL ([msg] ++ rest)) 0 } :
        Outbound).writePump (.socket true) =
        some { q with buf := [], wire := q.wire ++ [joinNL (msg :: rest)], pump := .select } :=
      rfl
    refine ⟨_, .head (.pump _ _ _ (hm.recv_cons hs hb)) (.head (.pump _ _ _ hopen)
      (.head (.pump _ _ _ hlen) (hdrain.tail (.pump _ _ _ hclose)))), ?_⟩
    simp only [Manager.updateClient_heap, if_true]
    exact ⟨hm.closing, hm.closes, rfl, by simp [hm.wire], hm.idle, .inl rfl⟩
  case writeFailed ok msg rest hb hok =>
    -- the frame not written: the pump returns with `msg` dropped
    have hfail : ({ q with buf := rest, pump := .received msg } : Outbound).writePump
        (.socket false) = some { q with buf := rest, pump := .returned } := rfl
    have hm₀ : Mirrors { q with buf := rest } { m.heap p with send := rest } :=
      ⟨hm.closing, hm.closes, rfl, hm.wire, hm.idle, hm.pump⟩
    obtain ⟨hrun, hm'⟩ := hm₀.exit
    refine ⟨_, .head (.pump _ _ _ (hm.recv_cons hs hb)) (.head (.pump _ _ _ hfail) hrun), ?_⟩
    simpa [Manager.pumpExit_heap, Manager.updateClient_heap] using hm'
  case writeTick ok hok =>
    -- the ping written
    have htick : q.writePump (.tick true) = some { q with pump := .select } := by
      simp [Outbound.writePump, hs]
    exact ⟨_, .single (.pump _ _ _ htick),
      ⟨hm.closing, hm.closes, hm.buf, hm.wire, hm.idle, .inl rfl⟩⟩
  case writeTickFailed ok hok =>
    -- the ping failed, or the context is done: the pump returns
    have htick : q.writePump (.tick false) = some { q with pump := .returned } := by
      simp [Outbound.writePump, hs]
    simpa [Manager.pumpExit_heap] using hm.pumpReturn htick

/-! ### Every step -/

/-- Client `c1`, with two messages for it buffered and its pumps at their loops. -/
def queuedRun : List Move :=
  addConnectionMoves 1 "10.0.0.1" "c1" 0 ++
    [.call (.sendToClient "c1" [104]), .run 3 .quiet, .run 3 .quiet,
      .call (.sendToClient "c1" [105]), .run 3 .quiet, .run 3 .quiet]

/-- **The manager's steps on a client's queue are runs of the queue**: a step
of the manager takes a mirror of any client but the one it creates to a
mirror of the client after it, through a run of the goroutine steps of
`WriteMessage`, `Close`, `cleanup` and `WritePump`; the client's own
`WritePump` steps from its `select`. -/
theorem exec_refines_outbound {t : Thread} {e : Env} {m m' : Manager} {ts : List Thread}
    (h : exec t e m = some (m', ts)) {p : Ptr} (hp : p ≠ m.next) {q : Outbound}
    (hm : Mirrors q (m.heap p)) (hw : t = .writePump p → q.pump = .select) :
    ∃ q', Relation.ReflTransGen OutStep q q' ∧ Mirrors q' (m'.heap p) := by
  by_cases ht : t = .writePump p
  · subst ht
    exact hm.writePump h (hw rfl)
  · obtain ⟨ops, hops⟩ := exec_heap_ops h hp ht
    obtain ⟨q', hq, hm', -⟩ := hm.applyAll ops
    exact ⟨q', hq, hops ▸ hm'⟩

theorem exec_refines_outbound_queued :
    ∃ m' ts, exec (.writePump 0) (.recv true) (runOf smallConfig queuedRun).mgr = some (m', ts) ∧
      (m'.heap 0).wire = [[[104], [105]]] ∧
      ∃ q', Relation.ReflTransGen OutStep ((runOf smallConfig queuedRun).mgr.heap 0).toOutbound q' ∧
        Mirrors q' (m'.heap 0) :=
  have h : exec (.writePump 0) (.recv true) (runOf smallConfig queuedRun).mgr = some (_, _) := rfl
  ⟨_, _, h, by decide, exec_refines_outbound h (by decide) (mirrors_toOutbound _) fun _ => rfl⟩

end Connection
end Gateway
