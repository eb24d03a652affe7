import Gateway.Connection.System
import Mathlib.Data.Nat.Size

/-
# The number of shards

`NewManager` converts `Sharding.ShardCount`, an `int`, to `uint32`, puts 64
in place of 0 and rounds up with `nextPowerOfTwo`: subtract one, copy the
highest set bit into every bit below it (the OR-smear by 1, 2, 4, 8 and 16),
add one, all modulo 2^32. On test bits, each smear by `j` doubles the run of
set bits below the highest one (`TopFilled.or_shiftRight`); after the five
the `size x` low bits of `x = n - 1` are all set, so `nextPowerOfTwo n` is
`2 ^ size (n - 1)` modulo 2^32, for every `n` (`nextPowerOfTwo_toNat`).

For `1 ≤ n ≤ 2^31` that is the least power of two at or above `n`, and a
manager built from a shard count in that range has that many shards, a mask
one below, and picks a shard in range for every key. Above 2^31 the smear
fills bit 31 and the increment wraps to 0: the manager has no shard at all,
its mask is all ones, and `AddConnection` indexes an empty slice before it
registers anyone, in every run (`newManager_wraps`).

Key theorems: `nextPowerOfTwo_toNat`, `nextPowerOfTwo_pow_bounds`,
`newManager_shards_in_range`, `newManager_wraps`.
-/

namespace Gateway
namespace Connection

/-! ### `uint32` arithmetic on `toNat` -/

theorem toNat_or_shiftRight (a j : UInt32) (hj : j.toNat < 32) :
    (a ||| a >>> j).toNat = a.toNat ||| a.toNat >>> j.toNat := by
  show (a.toBitVec ||| a.toBitVec >>> (j.toBitVec % 32).toNat).toNat = _
  rw [BitVec.toNat_or, BitVec.toNat_ushiftRight, BitVec.toNat_umod]
  congr
  exact Nat.mod_eq_of_lt hj

theorem toNat_add_one (a : UInt32) : (a + 1).toNat = (a.toNat + 1) % 2 ^ 32 :=
  BitVec.toNat_add ..

/-! ### The OR-smear -/

/-- The bits of `y` at `k` and above are clear, and the `j` bits below `k` are set. -/
def TopFilled (k j y : Nat) : Prop :=
  (∀ i, k ≤ i → y.testBit i = false) ∧ ∀ i, i < k → k ≤ i + j → y.testBit i = true

/-- One smear step doubles the run of set bits below the top. -/
theorem TopFilled.or_shiftRight {k j y : Nat} (h : TopFilled k j y) :
    TopFilled k (j + j) (y ||| y >>> j) := by
  refine ⟨fun i hi => ?_, fun i hi hij => ?_⟩
  · simp [Nat.testBit_or, Nat.testBit_shiftRight, h.1 i hi, h.1 (j + i) (by omega)]
  · rw [Nat.testBit_or, Nat.testBit_shiftRight]
    by_cases hk : k ≤ i + j
    · simp [h.2 i hi hk]
    · simp [h.2 (j + i) (by omega) (by omega)]

theorem TopFilled.smear {k : Nat} (a j : UInt32) (hj : j.toNat < 32)
    (h : TopFilled k j.toNat a.toNat) : TopFilled k (j.toNat + j.toNat) (a ||| a >>> j).toNat := by
  rw [toNat_or_shiftRight a j hj]
  exact h.or_shiftRight

theorem testBit_of_two_pow_le {x i : Nat} (hlo : 2 ^ i ≤ x) (hhi : x < 2 ^ (i + 1)) :
    x.testBit i = true := by
  have hr : x - 2 ^ i < 2 ^ i := by rw [Nat.pow_succ] at hhi; omega
  have h := Nat.testBit_two_pow_add_eq (x - 2 ^ i) i
  rwa [Nat.add_sub_cancel' hlo, Nat.testBit_lt_two_pow hr] at h

/-- Before the smear: the top bit of `x`, at `size x - 1`, is set. -/
theorem topFilled_size (x : Nat) : TopFilled x.size 1 x :=
  ⟨fun _ hi => Nat.testBit_lt_two_pow
      ((Nat.size_le.mp le_rfl).trans_le (Nat.pow_le_pow_right two_pos hi)),
    fun _ hi hk => testBit_of_two_pow_le (Nat.lt_size.mp hi) (Nat.size_le.mp hk)⟩

theorem TopFilled.eq {k y : Nat} (h : TopFilled k 32 y) (hk : k ≤ 32) : y = 2 ^ k - 1 := by
  refine Nat.eq_of_testBit_eq fun i => ?_
  rw [Nat.testBit_two_pow_sub_one]
  by_cases hi : i < k
  · simp [hi, h.2 i hi (by omega)]
  · simp [hi, h.1 i (by omega)]

/-- **`nextPowerOfTwo n` is `2 ^ size (n - 1)`**, modulo 2^32, for every `uint32`. -/
theorem nextPowerOfTwo_toNat (n : UInt32) :
    (nextPowerOfTwo n).toNat = 2 ^ (n - 1).toNat.size % 2 ^ 32 := by
  have h1 := TopFilled.smear _ 1 (by decide) (topFilled_size (n - 1).toNat)
  have h2 := TopFilled.smear _ 2 (by decide) h1
  have h3 := TopFilled.smear _ 4 (by decide) h2
  have h4 := TopFilled.smear _ 8 (by decide) h3
  have h5 := TopFilled.smear _ 16 (by decide) h4
  have hk : (n - 1).toNat.size ≤ 32 := Nat.size_le.mpr (UInt32.toNat_lt_size _)
  simp only [nextPowerOfTwo]
  rw [toNat_add_one, h5.eq hk, Nat.sub_add_cancel Nat.one_le_two_pow]

/-! ### Inputs up to 2^31 -/

/-- `2 ^ size (x - 1)` is the least power of two at or above `x`. -/
theorem pow_size_pred_bounds {x : Nat} (hx : 0 < x) :
    x ≤ 2 ^ (x - 1).size ∧ 2 ^ (x - 1).size < 2 * x := by
  have hlt : x - 1 < 2 ^ (x - 1).size := Nat.size_le.mp le_rfl
  refine ⟨by omega, ?_⟩
  rcases Nat.eq_zero_or_pos (x - 1) with h0 | hpos
  · rw [h0, Nat.size_zero]; omega
  · have hs : 0 < (x - 1).size := Nat.size_pos.mpr hpos
    have hle : 2 ^ ((x - 1).size - 1) ≤ x - 1 := Nat.lt_size.mp (by omega)
    have hpow : 2 ^ (x - 1).size = 2 * 2 ^ ((x - 1).size - 1) := by
      rw [← Nat.pow_succ']; congr 1; omega
    omega

theorem nextPowerOfTwo_eq_pow (n : UInt32) (h1 : 1 ≤ n.toNat) (h2 : n.toNat ≤ 2 ^ 31) :
    (nextPowerOfTwo n).toNat = 2 ^ (n.toNat - 1).size := by
  have hsub : (n - 1).toNat = n.toNat - 1 := UInt32.toNat_sub_of_le n 1 h1
  have hk : (n.toNat - 1).size ≤ 31 := Nat.size_le.mpr (by omega)
  rw [nextPowerOfTwo_toNat, hsub]
  exact Nat.mod_eq_of_lt (Nat.pow_lt_pow_right (by decide) (by omega))

/-- **`nextPowerOfTwo` rounds up to a power of two**, for `1 ≤ n ≤ 2^31`. -/
theorem nextPowerOfTwo_pow_bounds (n : UInt32) (h1 : 1 ≤ n.toNat) (h2 : n.toNat ≤ 2 ^ 31) :
    ∃ k, (nextPowerOfTwo n).toNat = 2 ^ k ∧ n.toNat ≤ 2 ^ k ∧ 2 ^ k < 2 * n.toNat :=
  ⟨_, nextPowerOfTwo_eq_pow n h1 h2, pow_size_pred_bounds (by omega)⟩

theorem nextPowerOfTwo_pow_bounds_five :
    1 ≤ (5 : UInt32).toNat ∧ (5 : UInt32).toNat ≤ 2 ^ 31 ∧
      ∃ k, (nextPowerOfTwo 5).toNat = 2 ^ k ∧ (5 : UInt32).toNat ≤ 2 ^ k ∧
        2 ^ k < 2 * (5 : UInt32).toNat :=
  ⟨by decide, by decide, nextPowerOfTwo_pow_bounds 5 (by decide) (by decide)⟩

/-! ### The shards `NewManager` makes -/

theorem newManager_shape {cfg : Config} {n : UInt32}
    (hn : UInt32.ofNat (cfg.shardCount % 2 ^ 32).toNat = n) (h0 : n ≠ 0) :
    (newManager cfg).shards.length = (nextPowerOfTwo n).toNat ∧
      (newManager cfg).shardMask = nextPowerOfTwo n - 1 := by
  subst hn
  simp only [newManager, List.length_map, List.length_range, if_neg h0, and_self]

theorem toNat_shardCount {cfg : Config} {n : UInt32}
    (hn : UInt32.ofNat (cfg.shardCount % 2 ^ 32).toNat = n) :
    n.toNat = (cfg.shardCount % 2 ^ 32).toNat := by
  rw [← hn, UInt32.toNat_ofNat_of_lt (by simp only [UInt32.size]; omega)]

theorem getShardID_le_shardMask (m : Manager) (key : String) :
    m.getShardID key ≤ m.shardMask.toNat := by
  rw [Manager.getShardID, UInt32.and_toNat]
  exact Nat.and_le_right

/-- **A shard count up to 2^31 is rounded up to a power of two**, the mask is
one below it, and every key picks a shard in range. -/
theorem newManager_shards_in_range (cfg : Config) (h1 : 0 < cfg.shardCount)
    (h2 : cfg.shardCount ≤ 2 ^ 31) :
    ∃ k, (newManager cfg).shards.length = 2 ^ k ∧ cfg.shardCount ≤ 2 ^ k ∧
      2 ^ k < 2 * cfg.shardCount ∧ (newManager cfg).shardMask.toNat = 2 ^ k - 1 ∧
      ∀ key, (newManager cfg).getShardID key < (newManager cfg).shards.length := by
  obtain ⟨n, hn⟩ : ∃ n, UInt32.ofNat (cfg.shardCount % 2 ^ 32).toNat = n := ⟨_, rfl⟩
  have hnat : n.toNat = cfg.shardCount.toNat := by
    rw [toNat_shardCount hn, Int.emod_eq_of_lt h1.le (by omega)]
  obtain ⟨hlen, hmask⟩ := newManager_shape hn fun h => by simp [h] at hnat; omega
  have hp : (nextPowerOfTwo n).toNat = 2 ^ (cfg.shardCount.toNat - 1).size := by
    rw [nextPowerOfTwo_eq_pow n (by omega) (by omega), hnat]
  have hb := pow_size_pred_bounds (x := cfg.shardCount.toNat) (by omega)
  have hmask' : (newManager cfg).shardMask.toNat = 2 ^ (cfg.shardCount.toNat - 1).size - 1 := by
    have hsub : (nextPowerOfTwo n - 1).toNat = (nextPowerOfTwo n).toNat - 1 :=
      UInt32.toNat_sub_of_le _ 1 (show 1 ≤ (nextPowerOfTwo n).toNat by rw [hp]; exact Nat.one_le_two_pow)
    rw [hmask, hsub, hp]
  have hcast : ((2 ^ (cfg.shardCount.toNat - 1).size : Nat) : Int) =
      2 ^ (cfg.shardCount.toNat - 1).size := by norm_cast
  refine ⟨_, hlen.trans hp, by omega, by omega, hmask', fun key => ?_⟩
  have := getShardID_le_shardMask (newManager cfg) key
  have := @Nat.one_le_two_pow (cfg.shardCount.toNat - 1).size
  omega

theorem newManager_shards_in_range_default :
    0 < ({ smallConfig with shardCount := 64 } : Config).shardCount ∧
      ({ smallConfig with shardCount := 64 } : Config).shardCount ≤ 2 ^ 31 ∧
      ∃ k, (newManager { smallConfig with shardCount := 64 }).shards.length = 2 ^ k ∧
        ({ smallConfig with shardCount := 64 } : Config).shardCount ≤ 2 ^ k ∧
        2 ^ k < 2 * ({ smallConfig with shardCount := 64 } : Config).shardCount ∧
        (newManager { smallConfig with shardCount := 64 }).shardMask.toNat = 2 ^ k - 1 ∧
        ∀ key, (newManager { smallConfig with shardCount := 64 }).getShardID key <
          (newManager { smallConfig with shardCount := 64 }).shards.length :=
  ⟨by decide, by decide, newManager_shards_in_range _ (by decide) (by decide)⟩

/-! ### Shard counts above 2^31 -/

theorem newManager_shards_nil {cfg : Config} (h : 2 ^ 31 < cfg.shardCount % 2 ^ 32) :
    (newManager cfg).shards = [] := by
  obtain ⟨n, hn⟩ : ∃ n, UInt32.ofNat (cfg.shardCount % 2 ^ 32).toNat = n := ⟨_, rfl⟩
  have hnat := toNat_shardCount hn
  have hlt : cfg.shardCount % 2 ^ 32 < 2 ^ 32 := Int.emod_lt_of_pos _ (by decide)
  obtain ⟨hlen, -⟩ := newManager_shape hn fun h0 => by simp [h0] at hnat; omega
  have hsub : (n - 1).toNat = n.toNat - 1 := UInt32.toNat_sub_of_le n 1 (show 1 ≤ n.toNat by omega)
  have hsize : (n - 1).toNat.size = 31 + 1 := by
    rw [hsub, hnat]
    exact le_antisymm (Nat.size_le.mpr (by omega)) (Nat.lt_size.mpr (by omega))
  rw [nextPowerOfTwo_toNat, hsize] at hlen
  exact List.eq_nil_of_length_eq_zero hlen

/-- **A shard count above 2^31 leaves the manager without shards**: in every
run, the shard table is empty and `AddConnection`'s `m.shards[shardID]` has
nothing to index, whatever the id, the address and the environment. -/
theorem newManager_wraps (cfg : Config) (h : 2 ^ 31 < cfg.shardCount % 2 ^ 32) {s : Sys}
    (hs : Reachable cfg s) :
    s.mgr.shards = [] ∧ ∀ ip e, exec (.addRegister ip) e s.mgr = none := by
  have hnil : s.mgr.shards = [] := by
    refine (Inductive.of_mgr (P := fun m => m.shards = []) (newManager_shards_nil h)
      (fun c m hm => by cases c <;> exact hm) fun hx hm => ?_).reachable hs
    exact List.eq_nil_of_length_eq_zero (((exec_frame hx).2.2.2.2.2.2.2.1).trans (by rw [hm]; rfl))
  exact ⟨hnil, fun ip e => by cases e <;> simp [exec, hnil]⟩

/-- `Sharding.ShardCount = 2^31 + 1`, which `validateConfig` accepts. -/
def wideShardConfig : Config := { smallConfig with shardCount := 2 ^ 31 + 1 }

theorem newManager_wraps_wide :
    validateConfig wideShardConfig = .ok () ∧ 2 ^ 31 < wideShardConfig.shardCount % 2 ^ 32 ∧
      (init wideShardConfig).mgr.shards = [] ∧
      ∀ ip e, exec (.addRegister ip) e (init wideShardConfig).mgr = none :=
  ⟨rfl, by decide, newManager_wraps wideShardConfig (by decide) .refl⟩

end Connection
end Gateway
