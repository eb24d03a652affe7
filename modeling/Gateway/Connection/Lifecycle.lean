import Gateway.Connection.Refinement
import Gateway.Connection.Routing
import Gateway.Connection.Disconnect

/-
# The end of a client

A client is closed by `Close`, or by the `cleanup` a pump defers, and that is
for good: nothing reopens it. From then on nothing reaches its socket and
nothing more is queued for it; `WritePump` only drops what is left in `Send`
(`closed_client_frozen`). `WriteMessage` refuses a closing client, and the
pump writes a frame only to an open one.

`onDisconnect` is called by the `RemoveClient` whose shard step took the
client out of its shard, and by the sweep for a client it finds in the shard
it has just swept, which never happens (`Gateway.Connection.Disconnect`). A
client is under one key of one shard (`Gateway.Connection.Routing`) and a
pointer is never registered again, so only one `RemoveClient` can take it
out. In every reachable state the hook has been called at most once for each
client, and only for a client that is closed and in no shard
(`reachable_disconnect_once`).

Key definitions: `Thread.removing`, `Sys.claimed`, `DisconnectOnce`. Key
theorems: `closed_client_frozen`, `reachable_disconnect_once`.
-/

namespace Gateway
namespace Connection

/-! ### A closed client -/

/-- A method keeps a closed client closed, with its buffer and its frames. -/
theorem ClientOp.apply_closed {c : Client} (hc : c.closing = true) (op : ClientOp) :
    (op.apply c).closing = true ∧ (op.apply c).send = c.send ∧ (op.apply c).wire = c.wire := by
  cases op <;>
    simp [ClientOp.apply, Client.enqueue, Client.writeMessage, Client.close,
      Client.setAuthenticated, hc]

theorem ClientOp.foldl_closed : ∀ (ops : List ClientOp) {c : Client}, c.closing = true →
    (ops.foldl (fun c op => op.apply c) c).closing = true ∧
      (ops.foldl (fun c op => op.apply c) c).send = c.send ∧
      (ops.foldl (fun c op => op.apply c) c).wire = c.wire
  | [], _, hc => ⟨hc, rfl, rfl⟩
  | op :: ops, _, hc => by
    obtain ⟨h1, h2, h3⟩ := ClientOp.apply_closed hc op
    obtain ⟨h1', h2', h3'⟩ := ClientOp.foldl_closed ops h1
    exact ⟨h1', h2'.trans h2, h3'.trans h3⟩

section Step

variable {t : Thread} {e : Env} {m m' : Manager} {ts : List Thread}

/-- A step makes a client at `m.next` at most, and never takes the address back. -/
theorem exec_next_le (h : exec t e m = some (m', ts)) : m.next ≤ m'.next := by
  cases ha : t.allocates
  · rw [exec_next h ha]
  · cases t <;> simp only [Thread.allocates, reduceCtorEq] at ha
    obtain ⟨_, _, _, -, -, rfl, -⟩ := exec_addRegister h
    exact Nat.le_succ _

/-- **A step leaves a closed client closed**: nothing is written to its socket,
and its buffer only loses messages from the front. -/
theorem exec_closed (h : exec t e m = some (m', ts)) {p : Ptr} (hp : p ≠ m.next)
    (hc : (m.heap p).closing = true) :
    (m'.heap p).closing = true ∧ (m'.heap p).send <:+ (m.heap p).send ∧
      (m'.heap p).wire = (m.heap p).wire := by
  by_cases ht : t = .writePump p
  · subst ht
    -- the return on `ctx.Done()`, on the closed `Send`, with a message dropped, and on a tick
    cases exec_sound h <;> simp_all [Manager.pumpExit_heap, Manager.updateClient_heap]
  · obtain ⟨ops, hops⟩ := exec_heap_ops h hp ht
    obtain ⟨h1, h2, h3⟩ := ClientOp.foldl_closed ops hc
    rw [hops, h2]
    exact ⟨h1, List.suffix_refl _, h3⟩

end Step

/-- A step of the process keeps the addresses made and what it does to a closed client. -/
theorem Step.closed {s s' : Sys} (h : Step s s') {p : Ptr} (hp : p < s.mgr.next)
    (hc : (s.mgr.heap p).closing = true) :
    p < s'.mgr.next ∧ (s'.mgr.heap p).closing = true ∧ (s'.mgr.heap p).send <:+ (s.mgr.heap p).send ∧
      (s'.mgr.heap p).wire = (s.mgr.heap p).wire := by
  cases h with
  | call m ts c => cases c <;> exact ⟨hp, hc, List.suffix_refl _, rfl⟩
  | run m m' pre post new t e h =>
    exact ⟨Nat.lt_of_lt_of_le hp (exec_next_le h), exec_closed h (Nat.ne_of_lt hp) hc⟩

/-- **Nothing reaches a closed client**: along any run, from any state, a client
the manager has made that is closed stays closed, no frame is written to its
socket, and nothing is added to its buffer, which only loses messages from the
front as `WritePump` drops them. -/
theorem closed_client_frozen {s s' : Sys} (h : Relation.ReflTransGen Step s s') {p : Ptr}
    (hp : p < s.mgr.next) (hc : (s.mgr.heap p).closing = true) :
    (s'.mgr.heap p).closing = true ∧ (s'.mgr.heap p).send <:+ (s.mgr.heap p).send ∧
      (s'.mgr.heap p).wire = (s.mgr.heap p).wire := by
  suffices p < s'.mgr.next ∧ (s'.mgr.heap p).closing = true ∧
      (s'.mgr.heap p).send <:+ (s.mgr.heap p).send ∧ (s'.mgr.heap p).wire = (s.mgr.heap p).wire from
    this.2
  induction h with
  | refl => exact ⟨hp, hc, List.suffix_refl _, rfl⟩
  | tail _ hst ih =>
    obtain ⟨hp₁, hc₁, hs₁, hw₁⟩ := ih
    obtain ⟨hp₂, hc₂, hs₂, hw₂⟩ := hst.closed hp₁ hc₁
    exact ⟨hp₂, hc₂, hs₂.trans hs₁, hw₂.trans hw₁⟩

/-- A client with a message queued for it, then removed: closed, with the
message still in `Send`. -/
def removedQueued : Sys :=
  runOf smallConfig (addConnectionMoves 1 "10.0.0.1" "c1" 0 ++
    [.call (.sendToClient "c1" [104]), .run 3 .quiet, .run 3 .quiet] ++ removeMoves 3 "c1" "bye")

/-- Its `WritePump` then takes the message from `Send` and drops it. -/
theorem closed_client_frozen_drop :
    ∃ s', removedQueued.moves [.run 2 (.recv true)] = some s' ∧ 0 < removedQueued.mgr.next ∧
      (removedQueued.mgr.heap 0).closing = true ∧ (removedQueued.mgr.heap 0).send = [[104]] ∧
      (s'.mgr.heap 0).send = [] ∧
      ((s'.mgr.heap 0).closing = true ∧ (s'.mgr.heap 0).send <:+ (removedQueued.mgr.heap 0).send ∧
        (s'.mgr.heap 0).wire = (removedQueued.mgr.heap 0).wire) := by
  have h : removedQueued.moves [.run 2 (.recv true)] = some _ := rfl
  exact ⟨_, h, by decide, by decide, by decide, by decide,
    closed_client_frozen (Sys.reach_of_moves h) (by decide) (by decide)⟩

/-! ### The disconnect hook -/

/-- The client a goroutine of `RemoveClient` holds once its shard step found
it: taken out of the shard, `onDisconnect` not yet called. -/
def Thread.removing : Thread → Option Ptr
  | .removeCount p .. | .removeClose p .. | .removeNotify p .. => some p
  | _ => none

/-- The client a goroutine of `RemoveClient` has closed and is about to report. -/
def Thread.notifying : Thread → Option Ptr
  | .removeNotify p .. => some p
  | _ => none

/-- The goroutines of `RemoveClient` that start a goroutine holding a client. -/
def Thread.removes : Thread → Bool
  | .removeShard .. | .removeCount .. | .removeClose .. => true
  | _ => false

/-- The clients taken out by a `RemoveClient` under way, then those
`onDisconnect` was called for. -/
def Sys.claimed (s : Sys) : List Ptr :=
  s.threads.filterMap Thread.removing ++ s.mgr.disconnects.map Prod.fst

/-- The clients `onDisconnect` is about to be called for, then those it was
called for. -/
def Sys.notified (s : Sys) : List Ptr :=
  s.threads.filterMap Thread.notifying ++ s.mgr.disconnects.map Prod.fst

/-- No shard's `clients` map holds `p`. -/
def Manager.Unregistered (m : Manager) (p : Ptr) : Prop :=
  ∀ sh ∈ m.shards, ∀ k, sh.clients.lookup k ≠ some p

theorem Thread.removing_of_notifying {t : Thread} {p : Ptr} (h : t.notifying = some p) :
    t.removing = some p := by
  cases t <;> simp_all [Thread.notifying, Thread.removing]

theorem filterMap_cons_toList {α β : Type} (f : α → Option β) (a : α) (l : List α) :
    (a :: l).filterMap f = (f a).toList ++ l.filterMap f := by
  rw [List.filterMap_cons]
  cases f a <;> rfl

@[simp] theorem filterMap_removing_afterRemove (pump : Option Ptr) :
    (afterRemove pump).filterMap Thread.removing = [] := by
  cases pump <;> rfl

@[simp] theorem filterMap_notifying_afterRemove (pump : Option Ptr) :
    (afterRemove pump).filterMap Thread.notifying = [] := by
  cases pump <;> rfl

section Step

variable {t : Thread} {e : Env} {m m' : Manager} {ts : List Thread}

/-- Only `RemoveClient`'s own steps start a goroutine that holds a client. -/
theorem exec_no_removing (h : exec t e m = some (m', ts)) (ht : t.removes = false) :
    ts.filterMap Thread.removing = [] ∧ ts.filterMap Thread.notifying = [] := by
  cases exec_sound h <;> simp_all [Thread.removes, Thread.removing, Thread.notifying]

/-- A client no shard holds stays so: a step registers only the client it makes. -/
theorem Manager.Unregistered.exec {p : Ptr} (hu : m.Unregistered p) (h : exec t e m = some (m', ts))
    (hkb : KeyedBelow m) (hp : p < m.next) : m'.Unregistered p := by
  intro sh' hsh' k hk
  obtain ⟨j, hj⟩ := List.mem_iff_getElem?.mp hsh'
  rcases exec_entry h hj hk with ⟨sh, hs, hk'⟩ | hfresh
  · exact hu sh (List.getElem?_mem hs) k hk'
  · obtain ⟨-, hid⟩ := keyedBelow_exec h hkb sh' hsh' k p hk
    rw [exec_heap_id h (Nat.ne_of_lt hp)] at hid
    rw [issued_iff.mpr ⟨p, hp, hid⟩] at hfresh
    cases hfresh

/-- `RemoveClient`'s shard step found `p`: no shard holds it afterwards, since
it was under one key of one shard. -/
theorem unregistered_removeShard {clientID : String} {sh : Shard} {p : Ptr}
    (hs : m.shards[m.getShardID clientID]? = some sh)
    (hr : (sh.removeClient m.heap clientID).2 = some p)
    (hsh : m'.shards = m.shards.set (m.getShardID clientID) (sh.removeClient m.heap clientID).1)
    (hkb : KeyedBelow m') (hpl : Placed m') (hmask : m'.getShardID = m.getShardID)
    (hid : (m'.heap p).id = clientID) : m'.Unregistered p := by
  intro sh' hsh' k hk
  obtain ⟨j, hj⟩ := List.mem_iff_getElem?.mp hsh'
  have hk' : k = clientID := (hkb sh' hsh' k p hk).2.symm.trans hid
  subst hk'
  have hj' : m.getShardID k = j := hmask ▸ hpl j sh' hj k p hk
  subst hj'
  rw [hsh, List.getElem?_set_self (List.getElem?_eq_some_iff.mp hs).1, Option.some.injEq] at hj
  subst hj
  rw [(Shard.removeClient_some hr).2] at hk
  cases hk

/-- **What a step does to the hook's bookkeeping**: it passes on the client its
goroutine holds; or it is `RemoveClient`'s shard step taking out a client a
shard held, which none holds after it; or the `Close` of the client held; or
the call of `onDisconnect` for it. -/
theorem exec_hook (h : exec t e m = some (m', ts)) (hkb : KeyedBelow m) (hpl : Placed m)
    (hsweep : ∀ i k ids, t = .sweepLookup i k ids → Gone m i k) :
    (ts.filterMap Thread.removing = t.removing.toList ∧
        ts.filterMap Thread.notifying = t.notifying.toList ∧ m'.disconnects = m.disconnects) ∨
      (∃ p, t.removing = none ∧ ts.filterMap Thread.removing = [p] ∧
        ts.filterMap Thread.notifying = [] ∧ m'.disconnects = m.disconnects ∧
        ¬m.Unregistered p ∧ p < m.next ∧ m'.Unregistered p) ∨
      (∃ p, t.removing = some p ∧ ts.filterMap Thread.removing = [p] ∧
        ts.filterMap Thread.notifying = [p] ∧ m'.disconnects = m.disconnects ∧
        (m'.heap p).closing = true) ∨
      (∃ p reason, t.removing = some p ∧ t.notifying = some p ∧
        ts.filterMap Thread.removing = [] ∧ ts.filterMap Thread.notifying = [] ∧
        m'.disconnects = m.disconnects ++ [(p, reason)]) := by
  have hkb' := keyedBelow_exec h hkb
  have hpl' := placed_exec h hkb hpl
  cases exec_sound h
  case removeMissing clientID reason pump sh hs hr =>
    exact .inl ⟨by simp [Thread.removing], by simp [Thread.notifying], rfl⟩
  case removeFound clientID reason pump sh p hs hr =>
    have hl := (Shard.removeClient_some hr).1
    obtain ⟨hlt, hid⟩ := hkb sh (List.getElem?_mem hs) clientID p hl
    refine .inr (.inl ⟨p, rfl, by simp [Thread.removing], by simp [Thread.notifying], rfl,
      fun hu => hu sh (List.getElem?_mem hs) clientID hl, hlt,
      unregistered_removeShard hs hr rfl hkb' hpl' rfl hid⟩)
  case removeCount p reason pump => exact .inl ⟨rfl, rfl, rfl⟩
  case removeClose p reason pump =>
    exact .inr (.inr (.inl ⟨p, rfl, rfl, rfl, rfl, by simp [Manager.updateClient]⟩))
  case removeNotify p reason pump =>
    exact .inr (.inr (.inr ⟨p, reason, rfl, rfl, by simp, by simp, rfl⟩))
  case sweepFound i k ids p hp =>
    rw [(hsweep i k ids rfl).getClient] at hp
    cases hp
  case sweepMissed => exact .inl ⟨rfl, rfl, rfl⟩
  all_goals
    obtain ⟨hr, hn⟩ := exec_no_removing h rfl
    exact .inl ⟨hr, hn, exec_disconnects h rfl⟩

end Step

/-! ### Every run -/

theorem mem_removing_of_notifying {l : List Thread} {p : Ptr}
    (h : p ∈ l.filterMap Thread.notifying) : p ∈ l.filterMap Thread.removing := by
  obtain ⟨t, ht, hn⟩ := List.mem_filterMap.mp h
  exact List.mem_filterMap.mpr ⟨t, ht, Thread.removing_of_notifying hn⟩

theorem Sys.notified_sub_claimed {s : Sys} {p : Ptr} (h : p ∈ s.notified) : p ∈ s.claimed := by
  rcases List.mem_append.mp h with h | h
  · exact List.mem_append_left _ (mem_removing_of_notifying h)
  · exact List.mem_append_right _ h

/-- A goroutine's step, seen from the whole process: the clients held and
reported are the same up to order, or one more that a shard held and none
holds after; and a client about to be reported, or reported, was so before
or has just been closed. -/
theorem hook_run {m m' : Manager} {pre post ts : List Thread} {t : Thread} {e : Env}
    (h : exec t e m = some (m', ts)) (hkb : KeyedBelow m) (hpl : Placed m)
    (hsweep : ∀ i k ids, t = .sweepLookup i k ids → Gone m i k) :
    ((Sys.claimed ⟨m', pre ++ ts ++ post⟩).Perm (Sys.claimed ⟨m, pre ++ t :: post⟩) ∨
      ∃ p, (Sys.claimed ⟨m', pre ++ ts ++ post⟩).Perm (p :: Sys.claimed ⟨m, pre ++ t :: post⟩) ∧
        ¬m.Unregistered p ∧ p < m.next ∧ m'.Unregistered p) ∧
    ∀ q ∈ Sys.notified ⟨m', pre ++ ts ++ post⟩,
      q ∈ Sys.notified ⟨m, pre ++ t :: post⟩ ∨ (m'.heap q).closing = true := by
  simp only [Sys.claimed, Sys.notified, List.filterMap_append, filterMap_cons_toList]
  rcases exec_hook h hkb hpl hsweep with ⟨hr, hn, hd⟩ | ⟨p, ht, hr, hn, hd, hreg, hlt, hu⟩ |
      ⟨p, ht, hr, hn, hd, hc⟩ | ⟨p, reason, ht, htn, hr, hn, hd⟩
  · -- the held client passed on
    rw [hr, hn, hd]
    exact ⟨.inl (.of_eq (by simp only [List.append_assoc])),
      fun q hq => .inl (by simpa only [List.append_assoc] using hq)⟩
  · -- `RemoveClient`'s shard step
    have htn : t.notifying = none := by
      cases hn' : t.notifying with
      | none => rfl
      | some q => rw [Thread.removing_of_notifying hn'] at ht; cases ht
    rw [hr, hn, hd, ht, htn]
    refine ⟨.inr ⟨p, List.perm_iff_count.mpr fun a => ?_, hreg, hlt, hu⟩,
      fun q hq => .inl (by simpa using hq)⟩
    simp only [List.count_append, List.count_cons, List.count_nil, Option.toList]
    omega
  · -- its `Close`
    rw [hr, hn, hd, ht]
    refine ⟨.inl (.of_eq (by simp [Option.toList])), fun q hq => ?_⟩
    by_cases hqp : q = p
    · exact .inr (hqp ▸ hc)
    · left
      simp only [List.mem_append, List.mem_singleton, hqp, or_false] at hq
      simp only [List.mem_append]
      tauto
  · -- its call of `onDisconnect`
    rw [hr, hn, hd, ht, htn]
    have hperm : ∀ l₁ l₂ l₃ : List Ptr, (l₁ ++ [] ++ l₂ ++ (l₃ ++ [p])).Perm
        (l₁ ++ ((some p).toList ++ l₂) ++ l₃) := fun l₁ l₂ l₃ =>
      List.perm_iff_count.mpr fun a => by
        simp only [List.count_append, List.count_cons, List.count_nil, Option.toList]
        omega
    simp only [List.map_append, List.map_cons, List.map_nil]
    exact ⟨.inl (hperm _ _ _), fun q hq => .inl ((hperm _ _ _).mem_iff.mp hq)⟩

/-- The invariant behind `reachable_disconnect_once`: the clients under removal
and reported are distinct, made, and held by no shard, and those about to be
reported, or reported, are closed. -/
structure DisconnectOnce (s : Sys) : Prop where
  keyed : KeyedBelow s.mgr
  placed : Placed s.mgr
  sweepGone : SweepGone s
  nodup : s.claimed.Nodup
  claimed_gone : ∀ p ∈ s.claimed, p < s.mgr.next ∧ s.mgr.Unregistered p
  notified_closed : ∀ p ∈ s.notified, (s.mgr.heap p).closing = true

/-- The sweep's lookup about to run finds nothing. -/
theorem DisconnectOnce.gone {m : Manager} {pre post : List Thread} {t : Thread}
    (hd : DisconnectOnce ⟨m, pre ++ t :: post⟩) :
    ∀ i k ids, t = .sweepLookup i k ids → Gone m i k :=
  fun i k ids ht =>
    hd.sweepGone t (by simp) i (k :: ids) (by rw [ht]; rfl) k (List.mem_cons_self _ _)

/-- A call starts a goroutine that holds no client. -/
theorem Call.start_holds (c : Call) (m : Manager) :
    (c.start m).2.removing = none ∧ (c.start m).2.notifying = none := by
  cases c <;> exact ⟨rfl, rfl⟩

/-- A call takes no client out and reports none. -/
theorem Sys.claimed_call (c : Call) (m : Manager) (ts : List Thread) :
    Sys.claimed ⟨(c.start m).1, ts ++ [(c.start m).2]⟩ = Sys.claimed ⟨m, ts⟩ := by
  cases c <;> simp [Sys.claimed, Call.start, List.filterMap_append, Thread.removing]

theorem disconnectOnce_inductive (cfg : Config) : Inductive cfg DisconnectOnce where
  init := ⟨keyedBelow_newManager cfg, placed_newManager cfg, (sweepGone_inductive cfg).init.2,
    List.nodup_nil, fun _ h => by simp [Sys.claimed, init, Thread.removing, newManager] at h,
    fun _ h => by simp [Sys.notified, init, Thread.notifying, newManager] at h⟩
  step := by
    intro s s' hs hst
    have hsg := ((sweepGone_inductive cfg).step ⟨hs.keyed, hs.sweepGone⟩ hst).2
    cases hst with
    | call m ts c =>
      obtain ⟨hr, hn⟩ := Call.start_holds c m
      have hcl := Sys.claimed_call c m ts
      have hno : Sys.notified ⟨(c.start m).1, ts ++ [(c.start m).2]⟩ = Sys.notified ⟨m, ts⟩ := by
        cases c <;> simp [Sys.notified, Call.start, List.filterMap_append, Thread.notifying]
      refine ⟨?_, ?_, hsg, hcl ▸ hs.nodup, ?_, ?_⟩
      · cases c <;> exact hs.keyed
      · cases c <;> exact hs.placed
      · rw [hcl]; cases c <;> exact hs.claimed_gone
      · rw [hno]; cases c <;> exact hs.notified_closed
    | run m m' pre post new t e h =>
      obtain ⟨hcl, hno⟩ := @hook_run m m' pre post new t e h hs.keyed hs.placed hs.gone
      have hnext := exec_next_le h
      have hgone :
          ∀ q ∈ Sys.claimed ⟨m, pre ++ t :: post⟩, q < m'.next ∧ m'.Unregistered q :=
        fun q hq =>
          ⟨Nat.lt_of_lt_of_le (hs.claimed_gone q hq).1 hnext,
            (hs.claimed_gone q hq).2.exec h hs.keyed (hs.claimed_gone q hq).1⟩
      refine ⟨keyedBelow_exec h hs.keyed, placed_exec h hs.keyed hs.placed, hsg, ?_, ?_, ?_⟩
      · rcases hcl with hp | ⟨p, hp, hreg, -, -⟩
        · exact hp.nodup_iff.mpr hs.nodup
        · exact hp.nodup_iff.mpr
            (List.nodup_cons.mpr ⟨fun hmem => hreg (hs.claimed_gone p hmem).2, hs.nodup⟩)
      · rcases hcl with hp | ⟨p, hp, -, hlt, hu⟩
        · exact fun q hq => hgone q (hp.mem_iff.mp hq)
        · intro q hq
          rcases List.mem_cons.mp (hp.mem_iff.mp hq) with rfl | hq
          · exact ⟨Nat.lt_of_lt_of_le hlt hnext, hu⟩
          · exact hgone q hq
      · intro q hq
        rcases hno q hq with hq | hc
        · have hlt := (hs.claimed_gone q (Sys.notified_sub_claimed hq)).1
          exact (exec_closed h (Nat.ne_of_lt hlt) (hs.notified_closed q hq)).1
        · exact hc

/-- **`onDisconnect` is called at most once for a client**: in every reachable
state, whatever the interleaving of the calls and the goroutines, no client
has been reported to the hook twice, and each client it was called for is
closed and held by no shard. -/
theorem reachable_disconnect_once {cfg : Config} {s : Sys} (hs : Reachable cfg s) :
    (s.mgr.disconnects.map Prod.fst).Nodup ∧
      ∀ p ∈ s.mgr.disconnects.map Prod.fst, (s.mgr.heap p).closing = true ∧ s.mgr.Unregistered p := by
  have hi := (disconnectOnce_inductive cfg).reachable hs
  exact ⟨(List.nodup_append.mp hi.nodup).2.1, fun p hp =>
    ⟨hi.notified_closed p (List.mem_append_right _ hp),
      (hi.claimed_gone p (List.mem_append_right _ hp)).2⟩⟩

theorem reachable_disconnect_once_removed :
    Reachable smallConfig removedQueued ∧ removedQueued.mgr.disconnects = [(0, "bye")] ∧
      ((removedQueued.mgr.disconnects.map Prod.fst).Nodup ∧
        ∀ p ∈ removedQueued.mgr.disconnects.map Prod.fst,
          (removedQueued.mgr.heap p).closing = true ∧ removedQueued.mgr.Unregistered p) :=
  have hs : Reachable smallConfig removedQueued := reachable_runOf rfl
  ⟨hs, by decide, reachable_disconnect_once hs⟩

end Connection
end Gateway
