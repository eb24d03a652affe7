import Gateway.Connection.Client
import Mathlib.Logic.Relation

/-
# One client's outbound queue, step by step

`c.Send` is a channel of capacity 256 with one consumer, `WritePump`.
`WriteMessage` holds `c.mu` for reading while it checks `closing` and tries a
non-blocking send; `Close` and `cleanup` hold `c.mu` for writing while they
set `closing`, cancel the context and close the channel, unless `closing` was
already set. `WritePump` receives a message, opens a text frame and writes
it, reads `n := len(c.Send)`, then writes a newline and the next received
message `n` times, and closes the frame; it returns at `ctx.Done()`, at a
closed and empty channel, and at a failed `NextWriter`, `w.Close` or ping,
and its deferred `cleanup` runs then.

`Gateway.Connection.Manager` takes a whole drain as one step. Here each
channel operation, each critical section of `c.mu` and each operation of the
pump's loop is a step of its own, so any number of producers, `Close` and
`cleanup` calls and the pump interleave as finely as the code lets them: a
producer between its check and its send holds the read lock
(`Producer.holding`), and a section under the write lock waits until no
producer does (`Outbound.unlocked`). The environment answers `NextWriter`,
`w.Close` and the ping. A send on a closed channel is counted, where Go
panics.

What holds in every run (`reachable_outboundInv`): `closing` is set exactly
when the channel has been closed, once; a producer holding the read lock
sees it open, so no send finds it closed; and the frames written so far,
then what the pump has taken and not yet written, then the buffer, are the
messages accepted, in order (`Outbound.Flow`) — until the pump returns,
after which the frames written are a prefix of them. Each frame's payload
is its messages joined by newlines, so splitting the payloads at newlines
gives back the messages, as long as none contains one
(`queue_lossless_fifo`).

Key definitions: `Outbound`, `OutStep`, `Outbound.writePump`. Key theorems:
`reachable_outboundInv`, `queue_lossless_fifo`.
-/

namespace Gateway
namespace Connection

/-! ### Frames -/

/-- The payload of a frame whose messages are `batch`: `w.Write(message)`,
then `w.Write([]byte{'\n'})` and `w.Write(next)` for each next message. -/
def joinNL (batch : List Bytes) : Bytes := [10].intercalate batch

/-- `bytes.Split(payload, []byte{'\n'})`. -/
def splitNL (payload : Bytes) : List Bytes := payload.splitOn 10

theorem joinNL_cons_cons (x y : Bytes) (r : List Bytes) :
    joinNL (x :: y :: r) = x ++ 10 :: joinNL (y :: r) := by
  simp [joinNL, List.intercalate, List.intersperse_cons_cons]

theorem joinNL_append {b : List Bytes} (hb : b ≠ []) (x : Bytes) :
    joinNL (b ++ [x]) = joinNL b ++ 10 :: x := by
  induction b with
  | nil => exact absurd rfl hb
  | cons y ys ih =>
    cases ys with
    | nil => simp [joinNL, List.intercalate, List.intersperse_cons_cons]
    | cons z zs =>
      rw [List.cons_append, List.cons_append, joinNL_cons_cons, ← List.cons_append,
        ih (List.cons_ne_nil _ _), joinNL_cons_cons]
      simp

/-- A frame's payload, split at newlines, gives back its messages. -/
theorem splitNL_joinNL {b : List Bytes} (hb : b ≠ []) (h : ∀ m ∈ b, (10 : UInt8) ∉ m) :
    splitNL (joinNL b) = b :=
  List.splitOn_intercalate b 10 h hb

/-! ### The queue and its goroutines -/

/-- A goroutine in `WriteMessage(m)`. -/
inductive Producer where
  /-- Before `c.mu.RLock()` and the check of `closing`. -/
  | start (m : Bytes)
  /-- Holding the read lock, `closing` seen false, before the `select` send. -/
  | holding (m : Bytes)
  deriving DecidableEq

/-- `WritePump`, at a point between two of its steps. -/
inductive PumpPc where
  /-- At the `select`. -/
  | select
  /-- `message, ok := <-c.Send` gave `m`, before `NextWriter`. -/
  | received (m : Bytes)
  /-- The frame written so far is `payload`, before `n := len(c.Send)`. -/
  | opened (payload : Bytes)
  /-- In the drain loop, `n` iterations left. -/
  | draining (payload : Bytes) (n : Nat)
  /-- Returned, before the deferred `c.cleanup()`. -/
  | returned
  /-- The deferred `c.cleanup()` done. -/
  | finished
  deriving DecidableEq

/-- One client's queue, the goroutines using it, and what they did. -/
structure Outbound where
  /-- `c.closing`; it also stands for "`c.ctx` is done", set in the same section. -/
  closing : Bool
  /-- The messages buffered in `c.Send`, oldest first. -/
  buf : List Bytes
  /-- The `close(c.Send)` calls made. -/
  closes : Nat
  /-- The sends that found `c.Send` closed: each would panic. -/
  lateSends : Nat
  /-- The messages whose `WriteMessage` returned nil, in the order they entered `c.Send`. -/
  accepted : List Bytes
  /-- The payloads of the text frames written. -/
  wire : List Bytes
  pump : PumpPc
  producers : List Producer

/-- `NewClient`'s queue with its `WritePump` at the `select`. -/
def Outbound.init : Outbound :=
  { closing := false, buf := [], closes := 0, lateSends := 0, accepted := [], wire := [],
    pump := .select, producers := [] }

/-- The producer holds `c.mu` for reading. -/
def Producer.holdsLock : Producer → Bool
  | .start _ => false
  | .holding _ => true

/-- No producer holds `c.mu` for reading, so `Lock` returns. -/
def Outbound.unlocked (q : Outbound) : Prop := ∀ p ∈ q.producers, p.holdsLock = false

instance (q : Outbound) : Decidable q.unlocked :=
  inferInstanceAs (Decidable (∀ p ∈ q.producers, _))

/-- The section of `Close` and `cleanup` under `c.mu.Lock()`. -/
def Outbound.close (q : Outbound) : Outbound :=
  if q.closing then q else { q with closing := true, closes := q.closes + 1 }

/-- `<-c.Send`: the oldest buffered message, `none` (the zero value, `ok`
false) from a closed and empty channel; blocks on an open empty one. -/
def Outbound.recv (q : Outbound) : Option (Option Bytes × Outbound) :=
  match q.buf with
  | m :: rest => some (some m, { q with buf := rest })
  | [] => if 0 < q.closes then some (none, q) else none

/-- The `select` send of `WriteMessage(m)`. -/
def Outbound.send (q : Outbound) (m : Bytes) : Outbound :=
  if 0 < q.closes then { q with lateSends := q.lateSends + 1 }
  else if q.buf.length < sendBufferSize then { q with buf := q.buf ++ [m], accepted := q.accepted ++ [m] }
  else q

/-- What `WritePump`'s step reads from outside: which case of the `select`
is taken, and whether a socket operation succeeded. -/
inductive PumpEnv where
  | done
  | recv
  | tick (ok : Bool)
  | socket (ok : Bool)

/-- One step of `WritePump`, or `none` while it blocks or has finished. -/
def Outbound.writePump (q : Outbound) (e : PumpEnv) : Option Outbound :=
  match q.pump, e with
  | .select, .done => if q.closing then some { q with pump := .returned } else none
  | .select, .recv =>
    q.recv.map fun
      | (some m, q') => { q' with pump := .received m }
      | (none, q') => { q' with pump := .returned }
  | .select, .tick ok => some { q with pump := if ok then .select else .returned }
  | .received m, .socket ok => some { q with pump := if ok then .opened m else .returned }
  | .opened payload, _ => some { q with pump := .draining payload q.buf.length }
  | .draining payload (n + 1), .recv =>
    q.recv.map fun r => { r.2 with pump := .draining (payload ++ 10 :: r.1.getD []) n }
  | .draining payload 0, .socket ok =>
    some (if ok then { q with wire := q.wire ++ [payload], pump := .select }
      else { q with pump := .returned })
  | .returned, _ => if q.unlocked then some { q.close with pump := .finished } else none
  | _, _ => none

/-- One step: a `WriteMessage` call starts, a producer takes a step, `Close`
or `cleanup` runs from another goroutine, or the pump takes a step. -/
inductive OutStep : Outbound → Outbound → Prop
  | call (q : Outbound) (m : Bytes) : OutStep q { q with producers := q.producers ++ [.start m] }
  | check (q : Outbound) (pre post : List Producer) (m : Bytes) :
      q.producers = pre ++ .start m :: post →
      OutStep q { q with producers := if q.closing then pre ++ post else pre ++ .holding m :: post }
  | send (q : Outbound) (pre post : List Producer) (m : Bytes) :
      q.producers = pre ++ .holding m :: post → OutStep q { q.send m with producers := pre ++ post }
  | close (q : Outbound) : q.unlocked → OutStep q q.close
  | pump (q q' : Outbound) (e : PumpEnv) : q.writePump e = some q' → OutStep q q'

/-! ### The invariant -/

/-- Where the accepted messages are: in the frames written, then with the
pump, then in the buffer; once the pump has returned, the frames are a
prefix of them. -/
def Outbound.Flow (q : Outbound) (frames : List (List Bytes)) : Prop :=
  match q.pump with
  | .select => frames.flatten ++ q.buf = q.accepted
  | .received m => frames.flatten ++ m :: q.buf = q.accepted
  | .opened payload => ∃ b, b ≠ [] ∧ payload = joinNL b ∧ frames.flatten ++ b ++ q.buf = q.accepted
  | .draining payload n =>
    n ≤ q.buf.length ∧ ∃ b, b ≠ [] ∧ payload = joinNL b ∧ frames.flatten ++ b ++ q.buf = q.accepted
  | .returned | .finished => frames.flatten <+: q.accepted

/-- The invariant of every run. -/
structure OutboundInv (q : Outbound) : Prop where
  closes_eq : q.closes = if q.closing then 1 else 0
  holding_open : ∀ p ∈ q.producers, p.holdsLock = true → q.closing = false
  no_lateSends : q.lateSends = 0
  flow : ∃ frames, (∀ b ∈ frames, b ≠ []) ∧ q.wire = frames.map joinNL ∧ q.Flow frames

/-! ### What each step does -/

section Steps

variable {q q' : Outbound}

@[simp] theorem Outbound.close_pump (q : Outbound) : q.close.pump = q.pump := by
  unfold Outbound.close; split <;> rfl

@[simp] theorem Outbound.close_buf (q : Outbound) : q.close.buf = q.buf := by
  unfold Outbound.close; split <;> rfl

@[simp] theorem Outbound.close_accepted (q : Outbound) : q.close.accepted = q.accepted := by
  unfold Outbound.close; split <;> rfl

@[simp] theorem Outbound.close_wire (q : Outbound) : q.close.wire = q.wire := by
  unfold Outbound.close; split <;> rfl

@[simp] theorem Outbound.close_lateSends (q : Outbound) : q.close.lateSends = q.lateSends := by
  unfold Outbound.close; split <;> rfl

@[simp] theorem Outbound.close_producers (q : Outbound) : q.close.producers = q.producers := by
  unfold Outbound.close; split <;> rfl

@[simp] theorem Outbound.close_closing (q : Outbound) : q.close.closing = true := by
  unfold Outbound.close; split <;> simp_all

theorem Outbound.close_closes (q : Outbound) :
    q.close.closes = if q.closing then q.closes else q.closes + 1 := by
  unfold Outbound.close; split <;> simp_all

theorem Outbound.close_setPump (q : Outbound) (pc : PumpPc) :
    { q with pump := pc }.close = { q.close with pump := pc } := by
  by_cases h : q.closing <;> simp [Outbound.close, h]

theorem Outbound.recv_eq_some {r : Option Bytes × Outbound} (h : q.recv = some r) :
    (∃ m rest, q.buf = m :: rest ∧ r = (some m, { q with buf := rest })) ∨
      (q.buf = [] ∧ 0 < q.closes ∧ r = (none, q)) := by
  unfold Outbound.recv at h
  split at h
  · next m rest hb => exact .inl ⟨m, rest, hb, (Option.some.inj h).symm⟩
  · next hb =>
    split_ifs at h with hc
    exact .inr ⟨hb, hc, (Option.some.inj h).symm⟩

/-- Only the pump's return runs `cleanup`; no pump step touches the producers,
the accepted messages or the late sends. -/
theorem Outbound.writePump_frame {e : PumpEnv} (h : q.writePump e = some q') :
    q'.producers = q.producers ∧ q'.accepted = q.accepted ∧ q'.lateSends = q.lateSends ∧
      ((q'.closing = q.closing ∧ q'.closes = q.closes) ∨
        (q.unlocked ∧ q'.closing = true ∧ q'.closes = q.close.closes)) := by
  unfold Outbound.writePump at h
  split at h <;> (try split_ifs at h) <;>
    simp only [Option.some.injEq, reduceCtorEq, Option.map_eq_some'] at h
  all_goals first
    | (obtain ⟨r, hr, rfl⟩ := h
       rcases Outbound.recv_eq_some hr with ⟨m, rest, -, rfl⟩ | ⟨-, -, rfl⟩ <;>
         exact ⟨rfl, rfl, rfl, .inl ⟨rfl, rfl⟩⟩)
    | (subst h; first
        | exact ⟨rfl, rfl, rfl, .inl ⟨rfl, rfl⟩⟩
        | exact ⟨by simp, by simp, by simp, .inr ⟨‹_›, by simp, rfl⟩⟩)

theorem joinNL_singleton (m : Bytes) : joinNL [m] = m := by simp [joinNL, List.intercalate]

/-- **A pump step keeps the messages in order**: what it takes from the
buffer goes to the frame under way, and a closed frame joins the frames
written. -/
theorem Outbound.flow_writePump {e : PumpEnv} (h : q.writePump e = some q')
    {frames : List (List Bytes)} (hne : ∀ b ∈ frames, b ≠ []) (hw : q.wire = frames.map joinNL)
    (hf : q.Flow frames) :
    ∃ frames', (∀ b ∈ frames', b ≠ []) ∧ q'.wire = frames'.map joinNL ∧ q'.Flow frames' := by
  cases hp : q.pump with
  | select =>
    simp only [Outbound.Flow, hp] at hf
    cases e with
    | done =>
      -- `ctx.Done()`
      simp only [Outbound.writePump, hp] at h
      split_ifs at h
      cases h
      exact ⟨frames, hne, hw, _, hf⟩
    | recv =>
      -- a receive at the `select`
      simp only [Outbound.writePump, hp] at h
      obtain ⟨r, hr, rfl⟩ := Option.map_eq_some'.mp h
      rcases Outbound.recv_eq_some hr with ⟨m, rest, hb, rfl⟩ | ⟨-, -, rfl⟩
      · exact ⟨frames, hne, hw, by simpa [Outbound.Flow, hb] using hf⟩
      · exact ⟨frames, hne, hw, _, hf⟩
    | tick ok =>
      simp only [Outbound.writePump, hp, Option.some.injEq] at h
      subst h
      cases ok
      · exact ⟨frames, hne, hw, _, hf⟩
      · exact ⟨frames, hne, hw, by simpa [Outbound.Flow] using hf⟩
    | socket => simp [Outbound.writePump, hp] at h
  | received m =>
    simp only [Outbound.Flow, hp] at hf
    cases e with
    | socket ok =>
      -- `NextWriter`, then `w.Write(message)`
      simp only [Outbound.writePump, hp, Option.some.injEq] at h
      subst h
      cases ok
      · exact ⟨frames, hne, hw, m :: q.buf, by simpa using hf⟩
      · exact ⟨frames, hne, hw, [m], List.cons_ne_nil _ _, (joinNL_singleton m).symm, by simpa using hf⟩
    | _ => simp [Outbound.writePump, hp] at h
  | opened payload =>
    -- `n := len(c.Send)`
    simp only [Outbound.Flow, hp] at hf
    simp only [Outbound.writePump, hp, Option.some.injEq] at h
    subst h
    exact ⟨frames, hne, hw, le_refl _, hf⟩
  | draining payload n =>
    simp only [Outbound.Flow, hp] at hf
    obtain ⟨hn, b, hb, rfl, hacc⟩ := hf
    cases n with
    | succ n =>
      cases e with
      | recv =>
        -- a receive in the drain loop, after `w.Write([]byte{'\n'})`
        simp only [Outbound.writePump, hp] at h
        obtain ⟨r, hr, rfl⟩ := Option.map_eq_some'.mp h
        rcases Outbound.recv_eq_some hr with ⟨x, rest, hbuf, rfl⟩ | ⟨hbuf, -, rfl⟩
        · rw [hbuf] at hn hacc
          refine ⟨frames, hne, hw, Nat.le_of_succ_le_succ hn, b ++ [x], by simp, ?_, by simpa using hacc⟩
          simp [joinNL_append hb]
        · rw [hbuf] at hn; exact absurd hn (Nat.not_succ_le_zero n)
      | _ => simp [Outbound.writePump, hp] at h
    | zero =>
      cases e with
      | socket ok =>
        -- `w.Close()`
        simp only [Outbound.writePump, hp, Option.some.injEq] at h
        subst h
        cases ok
        · exact ⟨frames, hne, hw, b ++ q.buf, by simpa using hacc⟩
        · refine ⟨frames ++ [b], fun b' hb' => ?_, by simp [hw], by simpa [Outbound.Flow] using hacc⟩
          rcases List.mem_append.mp hb' with hb' | hb'
          · exact hne b' hb'
          · rw [List.mem_singleton.mp hb']; exact hb
      | _ => simp [Outbound.writePump, hp] at h
  | returned =>
    -- the deferred `cleanup()`
    simp only [Outbound.Flow, hp] at hf
    simp only [Outbound.writePump, hp] at h
    split_ifs at h
    cases h
    exact ⟨frames, hne, by simpa using hw, by simpa [Outbound.Flow] using hf⟩
  | finished => simp [Outbound.writePump, hp] at h

theorem Outbound.flow_congr {q q' : Outbound} {frames : List (List Bytes)} (hp : q'.pump = q.pump)
    (hb : q'.buf = q.buf) (ha : q'.accepted = q.accepted) : q'.Flow frames ↔ q.Flow frames := by
  unfold Outbound.Flow; rw [hp, hb, ha]

/-- An accepted message joins the end of the buffer, wherever the pump is. -/
theorem Outbound.flow_append {frames : List (List Bytes)} (hf : q.Flow frames) (m : Bytes) :
    { q with buf := q.buf ++ [m], accepted := q.accepted ++ [m] }.Flow frames := by
  cases hp : q.pump <;> simp only [Outbound.Flow, hp] at hf ⊢
  case select => rw [← hf, List.append_assoc]
  case received => rw [← hf]; simp
  case opened =>
    obtain ⟨b, hb, hpay, hacc⟩ := hf
    exact ⟨b, hb, hpay, by rw [← hacc]; simp⟩
  case draining =>
    obtain ⟨hn, b, hb, hpay, hacc⟩ := hf
    exact ⟨by simp; omega, b, hb, hpay, by rw [← hacc]; simp⟩
  all_goals exact hf.trans (List.prefix_append _ _)

/-- The frames written are the first messages accepted. -/
theorem Outbound.Flow.prefix {frames : List (List Bytes)} (hf : q.Flow frames) :
    frames.flatten <+: q.accepted := by
  cases hp : q.pump <;> simp only [Outbound.Flow, hp] at hf
  case select => exact ⟨_, hf⟩
  case received => exact ⟨_, hf⟩
  case opened =>
    obtain ⟨b, -, -, hacc⟩ := hf; exact ⟨b ++ q.buf, by rw [← hacc, List.append_assoc]⟩
  case draining =>
    obtain ⟨-, b, -, -, hacc⟩ := hf; exact ⟨b ++ q.buf, by rw [← hacc, List.append_assoc]⟩
  all_goals exact hf

end Steps

/-! ### Concrete runs -/

/-- A move of a concrete run: a `WriteMessage` call, a step of the producer at
index `i`, `Close`, or a step of the pump. -/
inductive OutMove where
  | call (m : Bytes)
  | check (i : Nat)
  | send (i : Nat)
  | close
  | pump (e : PumpEnv)

/-- The state after a move, if it can be made. -/
def Outbound.move (q : Outbound) : OutMove → Option Outbound
  | .call m => some { q with producers := q.producers ++ [.start m] }
  | .check i =>
    match q.producers.drop i with
    | .start m :: post => some { q with
        producers := if q.closing then q.producers.take i ++ post
          else q.producers.take i ++ .holding m :: post }
    | _ => none
  | .send i =>
    match q.producers.drop i with
    | .holding m :: post => some { q.send m with producers := q.producers.take i ++ post }
    | _ => none
  | .close => if q.unlocked then some q.close else none
  | .pump e => q.writePump e

/-- The state after a list of moves. -/
def Outbound.moves (q : Outbound) : List OutMove → Option Outbound
  | [] => some q
  | mv :: mvs => (q.move mv).bind (·.moves mvs)

theorem Outbound.step_of_move {q q' : Outbound} {mv : OutMove} (h : q.move mv = some q') :
    OutStep q q' := by
  cases mv with
  | call m => cases h; exact .call q m
  | check i =>
    simp only [Outbound.move] at h
    split at h
    · next m post hd =>
      cases h
      exact .check q _ post m (by rw [← hd, List.take_append_drop])
    · cases h
  | send i =>
    simp only [Outbound.move] at h
    split at h
    · next m post hd =>
      cases h
      exact .send q _ post m (by rw [← hd, List.take_append_drop])
    · cases h
  | close =>
    simp only [Outbound.move] at h
    split_ifs at h with hu
    cases h
    exact .close q hu
  | pump e => exact .pump q q' e h

theorem Outbound.reach_of_moves {q : Outbound} :
    ∀ {mvs : List OutMove} {q' : Outbound}, q.moves mvs = some q' →
      Relation.ReflTransGen OutStep q q'
  | [], _, h => by cases h; exact .refl
  | _ :: _, _, h => by
    obtain ⟨q₁, h₁, h₂⟩ := Option.bind_eq_some.mp h
    exact .head (Outbound.step_of_move h₁) (Outbound.reach_of_moves h₂)

/-- The state a concrete run from `Outbound.init` ends in. -/
def outRunOf (mvs : List OutMove) : Outbound := (Outbound.init.moves mvs).getD Outbound.init

theorem reachable_outRunOf {mvs : List OutMove} (h : (Outbound.init.moves mvs).isSome) :
    Relation.ReflTransGen OutStep Outbound.init (outRunOf mvs) := by
  obtain ⟨q, hq⟩ := Option.isSome_iff_exists.mp h
  rw [outRunOf, hq]
  exact Outbound.reach_of_moves hq

/-- Two producers whose sends cross: the second checks and sends first; the
pump writes both in one frame; then `Close`, and the pump returns. -/
def crossedSendsRun : List OutMove :=
  [.call [104], .call [105], .check 1, .check 0, .send 1, .send 0,
    .pump .recv, .pump (.socket true), .pump .recv, .pump .recv, .pump (.socket true),
    .close, .pump .recv, .pump .done]

/-! ### Every run -/

theorem outboundInv_init : OutboundInv Outbound.init :=
  ⟨rfl, (fun _ h => by cases h), rfl, [], by simp, rfl, rfl⟩

/-- **Every step keeps the invariant.** -/
theorem OutboundInv.step {q q' : Outbound} (hi : OutboundInv q) (h : OutStep q q') :
    OutboundInv q' := by
  obtain ⟨hc, ho, hl, frames, hne, hw, hf⟩ := hi
  cases h with
  | call m =>
    refine ⟨hc, fun p hp hlock => ?_, hl, frames, hne, hw, (Outbound.flow_congr rfl rfl rfl).mpr hf⟩
    rcases List.mem_append.mp hp with hp | hp
    · exact ho p hp hlock
    · rw [List.mem_singleton.mp hp] at hlock; cases hlock
  | check pre post m hq =>
    refine ⟨hc, fun p hp hlock => ?_, hl, frames, hne, hw, (Outbound.flow_congr rfl rfl rfl).mpr hf⟩
    dsimp only at hp ⊢
    split_ifs at hp with hcl
    · exact ho p (hq ▸ ((List.sublist_cons_self _ _).append_left pre).subset hp) hlock
    · simp only [List.mem_append, List.mem_cons] at hp
      rcases hp with hp | rfl | hp
      · exact ho p (by rw [hq]; simp [hp]) hlock
      · simpa using hcl
      · exact ho p (by rw [hq]; simp [hp]) hlock
  | send pre post m hq =>
    have hopen : q.closing = false := ho (.holding m) (by rw [hq]; simp) rfl
    have h0 : q.closes = 0 := by simpa [hopen] using hc
    have hsub := (List.sublist_cons_self (Producer.holding m) post).append_left pre
    unfold Outbound.send
    rw [if_neg (by omega)]
    split_ifs
    · exact ⟨hc, fun p hp hlock => ho p (hq ▸ hsub.subset hp) hlock, hl, frames, hne, hw,
        (Outbound.flow_congr rfl rfl rfl).mpr (Outbound.flow_append hf m)⟩
    · exact ⟨hc, fun p hp hlock => ho p (hq ▸ hsub.subset hp) hlock, hl, frames, hne, hw,
        (Outbound.flow_congr rfl rfl rfl).mpr hf⟩
  | close hu =>
    refine ⟨?_, fun p hp hlock => ?_, by simpa using hl, frames, hne, by simpa using hw,
      (Outbound.flow_congr (by simp) (by simp) (by simp)).mpr hf⟩
    · rw [Outbound.close_closes, Outbound.close_closing]
      split_ifs at hc ⊢ <;> simp_all
    · rw [Outbound.close_producers] at hp
      rw [hu p hp] at hlock; cases hlock
  | pump _ e hp =>
    obtain ⟨hpr, hacc, hls, hcl⟩ := Outbound.writePump_frame hp
    refine ⟨?_, fun p hp' hlock => ?_, by rw [hls, hl], Outbound.flow_writePump hp hne hw hf⟩
    · rcases hcl with ⟨hcl, hcs⟩ | ⟨-, hcl, hcs⟩
      · rw [hcl, hcs, hc]
      · rw [hcl, hcs, Outbound.close_closes]
        split_ifs at hc ⊢ <;> simp_all
    · rw [hpr] at hp'
      rcases hcl with ⟨hcl, -⟩ | ⟨hu, -, -⟩
      · rw [hcl]; exact ho p hp' hlock
      · rw [hu p hp'] at hlock; cases hlock

/-- **The invariant holds in every run.** -/
theorem reachable_outboundInv {q : Outbound} (h : Relation.ReflTransGen OutStep Outbound.init q) :
    OutboundInv q := by
  induction h with
  | refl => exact outboundInv_init
  | tail _ hst ih => exact ih.step hst

/-- **The outbound queue is a closed-once, lossless FIFO**: in every run,
`close(c.Send)` has run at most once, no send has found the channel closed,
and as long as no accepted message contains a newline, the payloads of the
frames written, split at newlines, are the first messages accepted, in order. -/
theorem queue_lossless_fifo {q : Outbound} (h : Relation.ReflTransGen OutStep Outbound.init q) :
    q.closes ≤ 1 ∧ q.lateSends = 0 ∧
      ((∀ m ∈ q.accepted, (10 : UInt8) ∉ m) → (q.wire.map splitNL).flatten <+: q.accepted) := by
  obtain ⟨hc, -, hl, frames, hne, hw, hf⟩ := reachable_outboundInv h
  refine ⟨by rw [hc]; split <;> omega, hl, fun hnl => ?_⟩
  have hpre := hf.prefix
  have hsplit : q.wire.map splitNL = frames := by
    rw [hw, List.map_map]
    refine (List.map_congr_left fun b hb => splitNL_joinNL (hne b hb) fun m hm => ?_).trans
      (List.map_id _)
    exact hnl m (hpre.subset (List.mem_flatten.mpr ⟨b, hb, hm⟩))
  rw [hsplit]
  exact hpre

theorem queue_lossless_fifo_crossed :
    Relation.ReflTransGen OutStep Outbound.init (outRunOf crossedSendsRun) ∧
      (outRunOf crossedSendsRun).wire = [[105, 10, 104]] ∧
      (∀ m ∈ (outRunOf crossedSendsRun).accepted, (10 : UInt8) ∉ m) ∧
      (outRunOf crossedSendsRun).closes ≤ 1 ∧ (outRunOf crossedSendsRun).lateSends = 0 ∧
      ((outRunOf crossedSendsRun).wire.map splitNL).flatten <+: (outRunOf crossedSendsRun).accepted :=
  have h := @reachable_outRunOf crossedSendsRun rfl
  ⟨h, by decide, by decide, (queue_lossless_fifo h).1, (queue_lossless_fifo h).2.1,
    (queue_lossless_fifo h).2.2 (by decide)⟩

end Connection
end Gateway
