import Gateway.Connection.System

/-
# Leaving the registry, and the disconnect hook

A client leaves its shard's `clients` map in two ways. `RemoveClient` takes
it out, counts it down, closes it and calls `onDisconnect`. The sweep takes
it out inside `CleanupInactive`, counts it down, and then asks the shard for
the client by id before calling `onDisconnect`; but the shard has just
deleted that id, and an id is never handed out again, so the answer is
always nil (`sweepLookup_finds_nothing`). The sweep therefore never calls
the hook, and it never closes the client either: a swept client keeps its
socket, its pumps and its `Send` channel, with no entry in the registry and
no call of `onDisconnect` (`swept_client_never_closed`).

The invariant behind the first theorem: every id a sweep still has to count
down is gone from its shard and has been handed out (`SweepGone`).

Key theorems: `sweepLookup_finds_nothing`, `swept_client_never_closed`.
-/

namespace Gateway
namespace Connection

/-- Id `k` is gone from shard `i` for good: it has been handed out, and the
shard does not hold it. -/
def Gone (m : Manager) (i : Nat) (k : String) : Prop :=
  m.issued k = true ∧ ∀ sh, m.shards[i]? = some sh → sh.clients.lookup k = none

/-- The shard and the ids a sweeping goroutine has yet to count down. -/
def Thread.sweepIds : Thread → Option (Nat × List String)
  | .sweepCount i ids => some (i, ids)
  | .sweepLookup i k ids => some (i, k :: ids)
  | _ => none

/-- Every id a sweep has yet to count down is gone from its shard. -/
def SweepGone (s : Sys) : Prop :=
  ∀ t ∈ s.threads, ∀ i ids, t.sweepIds = some (i, ids) → ∀ k ∈ ids, Gone s.mgr i k

section Step

variable {t : Thread} {e : Env} {m m' : Manager} {ts : List Thread}

/-- No step brings back an id that is gone. -/
theorem Gone.exec {i : Nat} {k : String} (hg : Gone m i k) (h : exec t e m = some (m', ts)) :
    Gone m' i k := by
  refine ⟨exec_issued h hg.1, fun sh' hj => ?_⟩
  cases hp : sh'.clients.lookup k with
  | none => rfl
  | some p =>
    rcases exec_entry h hj hp with ⟨sh, hs, hp'⟩ | hfresh
    · rw [hg.2 sh hs] at hp'; cases hp'
    · rw [hg.1] at hfresh; cases hfresh

/-- The sweep's lookup of an id that is gone finds nothing. -/
theorem Gone.getClient {i : Nat} {k : String} (hg : Gone m i k) :
    (m.shards[i]?).bind (·.getClient k) = none := by
  cases hs : m.shards[i]? with
  | none => rfl
  | some sh => exact hg.2 sh hs

/-- The goroutines a step starts owe only ids that are gone. -/
theorem sweepGone_exec (h : exec t e m = some (m', ts)) (hm : KeyedBelow m)
    (ht : ∀ i ids, t.sweepIds = some (i, ids) → ∀ k ∈ ids, Gone m i k) :
    ∀ t' ∈ ts, ∀ i ids, t'.sweepIds = some (i, ids) → ∀ k ∈ ids, Gone m' i k := by
  cases exec_sound h
  case sweepShard now s hs =>
    simp only [List.mem_singleton, Thread.sweepIds, Option.some.injEq, Prod.mk.injEq]
    rintro _ rfl _ _ ⟨rfl, rfl⟩ k hk
    have hmem := Shard.mem_of_reported hk
    obtain ⟨p, hp⟩ := Option.isSome_iff_exists.mp (AList.lookup_isSome.mpr hmem)
    obtain ⟨hlt, hid⟩ := hm s (List.getElem?_mem hs) k p hp
    refine ⟨issued_iff.mpr ⟨p, hlt, hid⟩, fun sh' hj => ?_⟩
    obtain ⟨hi, -⟩ := List.getElem?_eq_some_iff.mp hs
    rw [List.getElem?_set_self hi] at hj
    cases hj
    exact AList.lookup_eq_none.mpr (Shard.not_mem_cleanupInactive hk)
  case sweepCount i k ids =>
    simp only [List.mem_singleton, Thread.sweepIds, Option.some.injEq, Prod.mk.injEq]
    rintro _ rfl _ _ ⟨rfl, rfl⟩ k' hk'
    exact ht _ _ rfl k' hk'
  case sweepFound i k ids p hp =>
    rw [(ht _ _ rfl k (List.mem_cons_self _ _)).getClient] at hp
    cases hp
  case sweepMissed i k ids _ =>
    simp only [List.mem_singleton, Thread.sweepIds, Option.some.injEq, Prod.mk.injEq]
    rintro _ rfl _ _ ⟨rfl, rfl⟩ k' hk'
    exact ht _ _ rfl k' (List.mem_cons_of_mem _ hk')
  all_goals simp [Thread.sweepIds, forall_mem_afterRemove]

end Step

theorem sweepGone_inductive (cfg : Config) :
    Inductive cfg fun s => KeyedBelow s.mgr ∧ SweepGone s where
  init := ⟨keyedBelow_newManager cfg, by simp [SweepGone, init, Thread.sweepIds]⟩
  step := by
    intro s s' ⟨hk, hg⟩ hst
    cases hst with
    | call m ts c =>
      refine ⟨by cases c <;> exact hk, ?_⟩
      intro t ht i ids hids k hk'
      rcases List.mem_append.mp ht with ht | ht
      · have := hg t ht i ids hids k hk'
        cases c <;> exact this
      · cases c <;> simp_all [Call.start, Thread.sweepIds]
    | run m m' pre post new t e h =>
      refine ⟨keyedBelow_exec h hk, ?_⟩
      intro t' ht' i ids hids k hk'
      simp only [List.mem_append, List.mem_cons] at ht'
      rcases ht' with (ht' | ht') | ht'
      · exact (hg t' (by simp [ht']) i ids hids k hk').exec h
      · exact sweepGone_exec h hk (fun i ids hids k hk' => hg t (by simp) i ids hids k hk')
          t' ht' i ids hids k hk'
      · exact (hg t' (by simp [ht']) i ids hids k hk').exec h

/-- **The sweep's lookup finds nothing**: in every reachable state, the step
of a sweep before `onDisconnect` finds no client and moves on, changing
nothing. -/
theorem sweepLookup_finds_nothing {cfg : Config} {s : Sys} (hs : Reachable cfg s)
    {i : Nat} {k : String} {ids : List String} (ht : Thread.sweepLookup i k ids ∈ s.threads)
    (e : Env) : exec (.sweepLookup i k ids) e s.mgr = some (s.mgr, [.sweepCount i ids]) := by
  have hg : Gone s.mgr i k :=
    ((sweepGone_inductive cfg).reachable hs).2 _ ht i (k :: ids) rfl k (List.mem_cons_self _ _)
  simp only [exec, hg.getClient]

/-- A client idle for longer than `2 * PongWait` (now `120 s + 1 ns` after it
connected), swept by the cleanup goroutine. -/
def sweepMoves : List Move :=
  addConnectionMoves 1 "10.0.0.1" "c1" 0 ++
    [.run 0 (.tick true), .run 0 (.clock (120 * 10 ^ 9 + 1)), .run 0 .quiet]

/-- The sweep, about to look `c1` up. -/
def midSweep : Sys := runOf smallConfig sweepMoves

theorem sweepLookup_finds_nothing_midSweep :
    Reachable smallConfig midSweep ∧ Thread.sweepLookup 0 "c1" [] ∈ midSweep.threads ∧
      exec (.sweepLookup 0 "c1" []) .quiet midSweep.mgr =
        some (midSweep.mgr, [.sweepCount 0 []]) :=
  have hs : Reachable smallConfig midSweep := reachable_runOf rfl
  have ht : Thread.sweepLookup 0 "c1" [] ∈ midSweep.threads := by decide
  ⟨hs, ht, sweepLookup_finds_nothing hs ht .quiet⟩

/-- The sweep over, the cleanup goroutine back at its `select`. -/
def afterSweep : Sys :=
  runOf smallConfig (sweepMoves ++ [.run 0 .quiet, .run 0 .quiet, .run 0 (.clock (120 * 10 ^ 9 + 1))])

theorem swept_client_never_closed :
    Reachable smallConfig afterSweep ∧
      afterSweep.threads = [.cleanupRoutine, .readPump 0, .writePump 0] ∧
      (∀ sh ∈ afterSweep.mgr.shards, sh.clients.lookup "c1" = none) ∧
      (afterSweep.mgr.heap 0).id = "c1" ∧ (afterSweep.mgr.heap 0).closing = false ∧
      afterSweep.mgr.disconnects = [] :=
  ⟨reachable_runOf rfl, by decide, by decide, by decide, by decide, by decide⟩

end Connection
end Gateway
