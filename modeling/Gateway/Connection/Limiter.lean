import Mathlib.Algebra.Group.Int
import Mathlib.Data.List.AList

/-
# The rate limiters

`NewManager` builds `NewIPRateLimiter(rate.Limit(ConnectionsPerUser), Burst)`
and `NewUserRateLimiter(rate.Limit(ConnectionsPerUser), ConnectionsPerUser)`;
`AddConnection` calls `m.ipLimiter.Allow(ip)` and `AuthenticateClient` calls
`m.userLimiter.Allow(userID)`. The two types are not defined in the
repository. They are modelled as the spec's rate-limit buckets: one
`rate.Limiter` of `golang.org/x/time/rate` (v0.4.0, in `go.mod`) per key,
with the rate and burst given to the constructor, made when its key is first
asked for (`KeyedLimiter`).

A `rate.Limiter` is a token bucket. `Allow()` at `t` is `reserveN(t, 1, 0).ok`:
at a rate of zero it spends the burst itself; otherwise `advance` refills the
bucket for the time since `last` (`t.Sub(last)`, which saturates at
`maxDuration`), by `limit` tokens a second and none at a negative rate, up to
`burst`, and the call takes a token if that leaves no debt whose wait, in
whole nanoseconds, is positive (`Limiter.allow`). `NewLimiter` leaves no token
and `last` at the zero `time.Time`, so the first `advance` refills the bucket
for all of `maxDuration` (`newLimiter`).

The model counts tokens in billionths and time in nanoseconds, exactly. What
it leaves out is the rounding of `float64`, in which the library keeps
`tokens` and computes every refill and wait. The two agree where the
quantities are whole numbers of tokens, as with a whole rate over whole
seconds, and may differ where a debt is within a rounding error of one
nanosecond of refill: at rate 3 and burst 1, with calls at 0, 333333333,
666666666 and 999999999 ns, the library's fourth wait comes out as
0.99999997 ns, truncated to 0, and it allows the call, where the exact wait is
1 ns and the model refuses it. The first refill also takes every clock
reading to be more than `maxDuration`, 292 years, after the zero time, as
every real clock is.

What the limiters can and cannot do: a key never asked for is allowed as long
as the rate is not negative and the burst is at least one
(`KeyedLimiter.allow_fresh`), whatever the other keys did; and with a rate of
at least one a second, a key is allowed again one second after its last token
was taken, whatever happened in between (`KeyedLimiter.allow_after_second`).
Nothing gives a token back. Both results hold of the library as well: a new
bucket is filled to its burst, and a second at a rate of at least one refills
at least one whole token, so no rounding decides them.

Key definitions: `Limiter.allow`, `newLimiter`, `KeyedLimiter.allow`. Key
theorems: `Limiter.allow_cases`, `KeyedLimiter.allow_fresh`,
`KeyedLimiter.allow_after_second`, `KeyedLimiter.Sound.allow`.
-/

namespace Gateway
namespace Connection

/-! ### One token bucket -/

/-- A `rate.Limiter`: `limit` tokens a second, at most `burst` of them;
`tokens` billionths of a token at time `last` (ns). -/
structure Limiter where
  limit : Int
  burst : Int
  tokens : Int
  last : Int
  deriving DecidableEq, Repr

/-- `maxDuration`, the largest `time.Duration`, `2^63 - 1` ns: where `t.Sub(u)`
saturates. -/
def maxDuration : Int := 9223372036854775807

/-- `limit.tokensFromDuration(d)` for `d` ns, in billionths of a token: none at a
rate of at most zero. -/
def tokensFromDuration (limit d : Int) : Int := if limit ≤ 0 then 0 else d * limit

/-- `rate.NewLimiter(r, b)` as its first `Allow`, at `now`, finds it: no token
at the zero time, refilled for `maxDuration` up to `b`. A failed first call
leaves `last` at `now` where the library leaves it at the zero time; at a
positive rate a call fails only for a burst below one, and then every call
does, so the answers are the same. -/
def newLimiter (r b now : Int) : Limiter :=
  { limit := r, burst := b, tokens := min (b * 10 ^ 9) (tokensFromDuration r maxDuration),
    last := now }

/-- `lim.advance(t)`: the tokens at `t`, those at `last` and what `t.Sub(last)`
refills, at most `burst`. -/
def Limiter.advance (lim : Limiter) (t : Int) : Int :=
  let last := if t < lim.last then t else lim.last
  min (lim.tokens + tokensFromDuration lim.limit (min (t - last) maxDuration))
    (lim.burst * 10 ^ 9)

/-- `limit.durationFromTokens(tokens)` for `tokens` billionths of a token, in
ns; `none` is `InfDuration`. -/
def durationFromTokens (limit tokens : Int) : Option Int :=
  if limit ≤ 0 then none else some (tokens / limit)

/-- `lim.Allow()` at `t`: `reserveN(t, 1, 0).ok`, and the limiter after it. -/
def Limiter.allow (lim : Limiter) (t : Int) : Bool × Limiter :=
  if lim.limit = 0 then
    if 1 ≤ lim.burst then (true, { lim with burst := lim.burst - 1 }) else (false, lim)
  else
    let tokens := lim.advance t - 10 ^ 9
    let wait := if tokens < 0 then durationFromTokens lim.limit (-tokens) else some 0
    if 1 ≤ lim.burst ∧ wait.any (· ≤ 0) then (true, { lim with last := t, tokens })
    else (false, lim)

theorem maxDuration_ge : (10 : Int) ^ 9 ≤ maxDuration := by
  unfold maxDuration; decide

/-- At a rate of at least one a second, a second or more refills at least
`limit` tokens. -/
theorem tokensFromDuration_ge {r d : Int} (hr : 1 ≤ r) (hd : 10 ^ 9 ≤ d) :
    10 ^ 9 * r ≤ tokensFromDuration r d := by
  rw [tokensFromDuration, if_neg (by omega)]
  exact Int.mul_le_mul_of_nonneg_right hd (by omega)

/-- The first call finds the bucket as `newLimiter` fills it. -/
theorem newLimiter_advance (r b now : Int) :
    (newLimiter r b now).advance now = min (b * 10 ^ 9) (tokensFromDuration r maxDuration) := by
  have h0 : min (now - now) maxDuration = 0 := by
    rw [Int.sub_self]
    exact min_eq_left (Int.le_trans (by decide) maxDuration_ge)
  simp only [Limiter.advance, newLimiter, lt_irrefl, if_false, h0, tokensFromDuration,
    Int.zero_mul, ite_self, Int.add_zero]
  exact min_eq_left (min_le_left _ _)

/-- A limiter with a token and a burst of at least one allows. -/
theorem Limiter.allow_of_token {lim : Limiter} {t : Int} (hb : 1 ≤ lim.burst)
    (ht : 10 ^ 9 ≤ lim.advance t) : (lim.allow t).1 = true := by
  by_cases h0 : lim.limit = 0
  · simp [Limiter.allow, h0, hb]
  · have hn : ¬lim.advance t - 10 ^ 9 < 0 := by omega
    simp only [Limiter.allow, if_neg h0, if_neg hn, Option.any_some, decide_eq_true_eq, le_refl,
      hb, and_self, if_true]

/-- `Allow()` at a positive rate finds no wait when the debt after the token is
less than a nanosecond of refill. -/
theorem durationFromTokens_ok {r x : Int} (hr : 0 < r) :
    ((if x < 0 then durationFromTokens r (-x) else some 0).any fun d => decide (d ≤ 0)) = true ↔
      -r < x := by
  split_ifs with hx
  · simp only [durationFromTokens, if_neg (show ¬r ≤ 0 by omega), Option.any_some,
      decide_eq_true_eq]
    constructor
    · intro h
      by_contra hc
      have := Int.le_ediv_of_mul_le hr (show 1 * r ≤ -x by omega)
      omega
    · intro h
      rw [Int.ediv_eq_zero_of_lt (by omega) (by omega)]
  · simp only [Option.any_some, decide_eq_true_eq, le_refl, true_iff]
    omega

/-- **What `Allow()` does** at a positive rate: with a burst of at least one
and a debt after the token of less than a nanosecond of refill, it takes the
token at `t`; otherwise it refuses and changes nothing. -/
theorem Limiter.allow_cases {lim : Limiter} (hr : 0 < lim.limit) (t : Int) :
    (1 ≤ lim.burst ∧ -lim.limit < lim.advance t - 10 ^ 9 ∧
        lim.allow t = (true, { lim with last := t, tokens := lim.advance t - 10 ^ 9 })) ∨
      (¬(1 ≤ lim.burst ∧ -lim.limit < lim.advance t - 10 ^ 9) ∧ lim.allow t = (false, lim)) := by
  simp only [Limiter.allow, if_neg (show lim.limit ≠ 0 by omega)]
  by_cases h : 1 ≤ lim.burst ∧ -lim.limit < lim.advance t - 10 ^ 9
  · exact .inl ⟨h.1, h.2, by rw [if_pos ⟨h.1, (durationFromTokens_ok hr).mpr h.2⟩]⟩
  · exact .inr ⟨h, by rw [if_neg fun h' => h ⟨h'.1, (durationFromTokens_ok hr).mp h'.2⟩]⟩

/-- The limiter's bookkeeping at a positive rate: the rate and burst it was
made with, and a debt of less than `limit` billionths, the most `Allow`
rounds away. -/
def Limiter.Sound (r b : Int) (lim : Limiter) : Prop :=
  lim.limit = r ∧ lim.burst = b ∧ -r < lim.tokens

theorem Limiter.Sound.allow {r b : Int} {lim : Limiter} (hr : 0 < r) (h : lim.Sound r b) (t : Int) :
    (lim.allow t).2.Sound r b := by
  obtain ⟨hl, hb, ht⟩ := h
  rcases Limiter.allow_cases (hl ▸ hr) t with ⟨-, hok, he⟩ | ⟨-, he⟩ <;> rw [he]
  · exact ⟨hl, hb, by dsimp only; omega⟩
  · exact ⟨hl, hb, ht⟩

/-- **A second refills a token**: at a rate of at least one a second, a sound
limiter allows one second after its last token was taken. -/
theorem Limiter.allow_after_second {r b : Int} {lim : Limiter} (hr : 1 ≤ r) (hb : 1 ≤ b)
    (h : lim.Sound r b) {t : Int} (ht : lim.last + 10 ^ 9 ≤ t) : (lim.allow t).1 = true := by
  obtain ⟨rfl, rfl, htok⟩ := h
  refine Limiter.allow_of_token hb ?_
  have := tokensFromDuration_ge hr (le_min (by omega) maxDuration_ge : 10 ^ 9 ≤ min (t - lim.last) _)
  simp only [Limiter.advance, if_neg (show ¬t < lim.last by omega)]
  omega

/-! ### One bucket per key -/

/-- Modelled from the spec: `IPRateLimiter` and `UserRateLimiter`, which the
repository uses and does not define; the spec's rate-limit buckets, one
`rate.Limiter` per key with the constructor's rate and burst. -/
structure KeyedLimiter where
  limit : Int
  burst : Int
  buckets : AList fun _ : String => Limiter

/-- Modelled from the spec: `NewIPRateLimiter(r, b)`, with no bucket yet. -/
def newIPRateLimiter (r b : Int) : KeyedLimiter := { limit := r, burst := b, buckets := ∅ }

/-- Modelled from the spec: `NewUserRateLimiter(r, b)`, with no bucket yet. -/
def newUserRateLimiter (r b : Int) : KeyedLimiter := { limit := r, burst := b, buckets := ∅ }

/-- The bucket of `key` at `now`: its own, or a new one. -/
def KeyedLimiter.bucket (l : KeyedLimiter) (key : String) (now : Int) : Limiter :=
  (l.buckets.lookup key).getD (newLimiter l.limit l.burst now)

/-- Modelled from the spec: `Allow(key)` at `now`, and the limiter after it. -/
def KeyedLimiter.allow (l : KeyedLimiter) (key : String) (now : Int) : Bool × KeyedLimiter :=
  (((l.bucket key now).allow now).1,
    { l with buckets := l.buckets.insert key ((l.bucket key now).allow now).2 })

@[simp] theorem KeyedLimiter.allow_limit (l : KeyedLimiter) (key : String) (now : Int) :
    (l.allow key now).2.limit = l.limit := rfl

@[simp] theorem KeyedLimiter.allow_burst (l : KeyedLimiter) (key : String) (now : Int) :
    (l.allow key now).2.burst = l.burst := rfl

/-- `Allow(key)` leaves the other keys' buckets as they were. -/
theorem KeyedLimiter.lookup_allow_ne (l : KeyedLimiter) {key k : String} (now : Int)
    (h : k ≠ key) : (l.allow key now).2.buckets.lookup k = l.buckets.lookup k :=
  AList.lookup_insert_ne h

/-- **A key never asked for is allowed**, whatever the other keys did, as long
as the rate is not negative and the burst is at least one. -/
theorem KeyedLimiter.allow_fresh (l : KeyedLimiter) {key : String} (now : Int)
    (h : l.buckets.lookup key = none) (hr : 0 ≤ l.limit) (hb : 1 ≤ l.burst) :
    (l.allow key now).1 = true := by
  simp only [KeyedLimiter.allow, KeyedLimiter.bucket, h, Option.getD_none]
  rcases hr.eq_or_lt with h0 | hr
  · -- at rate zero the burst is spent
    simp [Limiter.allow, newLimiter, ← h0, hb]
  · have := tokensFromDuration_ge (show 1 ≤ l.limit by omega) maxDuration_ge
    exact Limiter.allow_of_token hb (by rw [newLimiter_advance]; omega)

/-- Every bucket is sound for the limiter's rate and burst. -/
def KeyedLimiter.Sound (l : KeyedLimiter) : Prop :=
  ∀ k lim, l.buckets.lookup k = some lim → lim.Sound l.limit l.burst

theorem newUserRateLimiter_sound (r b : Int) : (newUserRateLimiter r b).Sound :=
  fun _ _ h => by cases h

theorem KeyedLimiter.Sound.bucket {l : KeyedLimiter} (hs : l.Sound) (hr : 0 < l.limit)
    (hb : 0 ≤ l.burst) (key : String) (now : Int) : (l.bucket key now).Sound l.limit l.burst := by
  unfold KeyedLimiter.bucket
  cases h : l.buckets.lookup key with
  | none =>
    have := tokensFromDuration_ge (show 1 ≤ l.limit by omega) maxDuration_ge
    exact ⟨rfl, rfl, by simp only [Option.getD_none, newLimiter]; omega⟩
  | some lim => exact hs key lim h

/-- `Allow` keeps every bucket sound, at a positive rate. -/
theorem KeyedLimiter.Sound.allow {l : KeyedLimiter} (hs : l.Sound) (hr : 0 < l.limit)
    (hb : 0 ≤ l.burst) (key : String) (now : Int) : (l.allow key now).2.Sound := by
  intro k lim hk
  by_cases hkey : k = key
  · subst hkey
    simp only [KeyedLimiter.allow, AList.lookup_insert, Option.some.injEq] at hk
    subst hk
    exact (hs.bucket hr hb k now).allow hr now
  · rw [KeyedLimiter.lookup_allow_ne l now hkey] at hk
    exact hs k lim hk

/-- **A key is allowed again one second after its last token**, whatever
happened in between, at a rate and a burst of at least one. -/
theorem KeyedLimiter.allow_after_second {l : KeyedLimiter} (hs : l.Sound) (hr : 1 ≤ l.limit)
    (hb : 1 ≤ l.burst) {key : String} {now : Int}
    (ht : ∀ lim, l.buckets.lookup key = some lim → lim.last + 10 ^ 9 ≤ now) :
    (l.allow key now).1 = true := by
  cases h : l.buckets.lookup key with
  | none => exact l.allow_fresh now h (by omega) hb
  | some lim =>
    simp only [KeyedLimiter.allow, KeyedLimiter.bucket, h, Option.getD_some]
    exact Limiter.allow_after_second hr hb (hs key lim h) (ht lim h)

end Connection
end Gateway
