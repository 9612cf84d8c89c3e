import Mathlib.Data.Nat.Bitwise

/-!
# `Lib.Subnet` — subnets of numbered addresses

Addresses are the numbers below `2 ^ w`. A subnet is given by its network address and the number of its host
bits; the mask has the other bits set. Membership is stated with the mask, as implementations test it, and
read as an interval (`contains_iff`). An address that is counted from the network address modulo `2 ^ w` is
a host of the subnet for small offsets only (`isHost_add_iff`), also when the sum wraps around.
-/

structure Subnet (w : ℕ) where
  hostBits    : ℕ
  network     : ℕ
  hostBits_le : hostBits ≤ w
  network_lt  : network < 2 ^ w
  aligned     : 2 ^ hostBits ∣ network

namespace Subnet

variable {w : ℕ} {n : Subnet w} {a o : ℕ}

def mask (n : Subnet w) : ℕ := 2 ^ w - 2 ^ n.hostBits

/-- All host bits set. -/
def broadcast (n : Subnet w) : ℕ := n.network ||| (2 ^ n.hostBits - 1)

def Contains (n : Subnet w) (a : ℕ) : Prop := a &&& n.mask = n.network

/-- An address that an interface can have: neither the network address nor the broadcast address. -/
structure IsHost (n : Subnet w) (a : ℕ) : Prop where
  contains  : n.Contains a
  network   : a ≠ n.network
  broadcast : a ≠ n.broadcast

/-! ## Masks -/

/-- Masking clears the low bits. -/
theorem and_mask {h x : ℕ} (hh : h ≤ w) (hx : x < 2 ^ w) : x &&& (2 ^ w - 2 ^ h) = x / 2 ^ h * 2 ^ h := by
  have hpos : 0 < 2 ^ h := Nat.two_pow_pos h
  have hle : 2 ^ h ≤ 2 ^ w := Nat.pow_le_pow_right (by decide) hh
  have hsub : 2 ^ w - 2 ^ h = 2 ^ w - ((2 ^ h - 1) + 1) := by
    rw [Nat.sub_add_cancel hpos]
  refine Nat.eq_of_testBit_eq fun i => ?_
  rw [hsub, Nat.testBit_and, Nat.testBit_two_pow_sub_succ (by omega), Nat.testBit_two_pow_sub_one,
    Nat.testBit_mul_two_pow, Nat.testBit_div_two_pow]
  by_cases hlow : i < h
  · simp [hlow]
  · rw [show i - h + h = i from by omega]
    by_cases hhigh : i < w
    · simp [hlow, hhigh, Nat.not_lt.mp hlow]
    · -- above the width there are no bits
      have hbit : x.testBit i = false :=
        Nat.testBit_lt_two_pow (lt_of_lt_of_le hx (Nat.pow_le_pow_right (by decide) (Nat.not_lt.mp hhigh)))
      simp [hbit]

theorem end_le (n : Subnet w) : n.network + 2 ^ n.hostBits ≤ 2 ^ w := by
  obtain ⟨q, hq⟩ := n.aligned
  have hw : 2 ^ w = 2 ^ n.hostBits * 2 ^ (w - n.hostBits) := by
    rw [← pow_add, Nat.add_sub_cancel' n.hostBits_le]
  have hlt : 2 ^ n.hostBits * q < 2 ^ n.hostBits * 2 ^ (w - n.hostBits) := by
    rw [← hq, ← hw]
    exact n.network_lt
  have hle : q + 1 ≤ 2 ^ (w - n.hostBits) := Nat.lt_of_mul_lt_mul_left hlt
  calc n.network + 2 ^ n.hostBits = 2 ^ n.hostBits * (q + 1) := by rw [hq, Nat.mul_add, Nat.mul_one]
    _ ≤ 2 ^ n.hostBits * 2 ^ (w - n.hostBits) := Nat.mul_le_mul_left _ hle
    _ = 2 ^ w := hw.symm

/-- **A subnet is an interval.** -/
theorem contains_iff (ha : a < 2 ^ w) :
    n.Contains a ↔ n.network ≤ a ∧ a < n.network + 2 ^ n.hostBits := by
  obtain ⟨q, hq⟩ := n.aligned
  have hpos : 0 < 2 ^ n.hostBits := Nat.two_pow_pos _
  unfold Contains mask
  rw [and_mask n.hostBits_le ha, hq, Nat.mul_comm, Nat.mul_right_inj (by omega), Nat.div_eq_iff hpos]
  have hcomm : q * 2 ^ n.hostBits = 2 ^ n.hostBits * q := Nat.mul_comm _ _
  omega

theorem broadcast_eq (n : Subnet w) : n.broadcast = n.network + (2 ^ n.hostBits - 1) := by
  obtain ⟨q, hq⟩ := n.aligned
  unfold broadcast
  rw [hq]
  exact (Nat.two_pow_add_eq_or_of_lt (Nat.sub_lt (Nat.two_pow_pos _) (by decide)) q).symm

theorem isHost_iff (ha : a < 2 ^ w) :
    n.IsHost a ↔ n.network < a ∧ a + 1 < n.network + 2 ^ n.hostBits := by
  have hpos : 0 < 2 ^ n.hostBits := Nat.two_pow_pos _
  constructor
  · rintro ⟨hcontains, hnetwork, hbroadcast⟩
    rw [broadcast_eq] at hbroadcast
    have hinterval := (contains_iff ha).mp hcontains
    omega
  · rintro ⟨hlow, hhigh⟩
    refine ⟨(contains_iff ha).mpr (by omega), by omega, ?_⟩
    rw [broadcast_eq]
    omega

instance : Decidable (n.Contains a) := inferInstanceAs (Decidable (_ = _))

instance : Decidable (n.IsHost a) :=
  decidable_of_iff (n.Contains a ∧ a ≠ n.network ∧ a ≠ n.broadcast)
    ⟨fun ⟨hc, hn, hb⟩ => ⟨hc, hn, hb⟩, fun h => ⟨h.contains, h.network, h.broadcast⟩⟩

/-! ## Counting from the network address -/

/-- **The offsets of the hosts.** -/
theorem isHost_add_iff (ho : o < 2 ^ w) :
    n.IsHost ((n.network + o) % 2 ^ w) ↔ 0 < o ∧ o + 1 < 2 ^ n.hostBits := by
  have hend := n.end_le
  have hnet := n.network_lt
  rw [isHost_iff (Nat.mod_lt _ (Nat.two_pow_pos w))]
  by_cases hwrap : n.network + o < 2 ^ w
  · rw [Nat.mod_eq_of_lt hwrap]
    omega
  · -- past the last address the sum is below the network address
    have hmod : (n.network + o) % 2 ^ w = n.network + o - 2 ^ w := by
      rw [Nat.mod_eq_sub_mod (Nat.not_lt.mp hwrap), Nat.mod_eq_of_lt (by omega)]
    rw [hmod]
    omega

end Subnet
