import Mathlib.Algebra.Ring.Nat
import ShardRouting.Proofs.Topology.Uniform

namespace ShardRouting

namespace Topology

def share (t : Topology) (s : ShardNumber) : Nat :=
  ((t.ownedBy s).map fun p => p.2.toNat - p.1.toNat).sum

variable {version : UInt64} {space count s : UInt32} {t : Topology}

theorem share_of_single {start stop : Bucket} (h : t.ownedBy s = [(start, stop)]) :
    t.share s = stop.toNat - start.toNat := by
  simp [share, h]

theorem toNat_uniformWidth_of_le (hcount : count ≠ 0) (hle : count ≤ space) :
    (uniformWidth space count).toNat = space.toNat / count.toNat := by
  have hpos : 0 < count.toNat := UInt32.lt_iff_toNat_lt.mp (UInt32.pos_iff_ne_zero.mpr hcount)
  rw [toNat_uniformWidth]
  exact Nat.max_eq_left (Nat.div_pos (UInt32.le_iff_toNat_le.mp hle) hpos)

theorem uniformOwners_of_le (hle : count ≤ space) : uniformOwners space count = count := by
  apply UInt32.toNat_inj.mp
  rw [toNat_uniformOwners]
  exact Nat.min_eq_left (UInt32.le_iff_toNat_le.mp hle)

theorem IsUniform.share_eq (h : IsUniform version space count t) (hle : count ≤ space)
    (hs : s < count) : t.share s = space.toNat / count.toNat +
      if s + 1 = count then space.toNat % count.toNat else 0 := by
  have hcount : count ≠ 0 := UInt32.pos_iff_ne_zero.mp (UInt32.lt_of_le_of_lt UInt32.zero_le hs)
  have howners := uniformOwners_of_le hle
  have hs' : s < uniformOwners space count := by rwa [howners]
  have hwidth := toNat_uniformWidth_of_le hcount hle
  have hsucc := toNat_succ_of_lt hs
  rw [share_of_single (h.single s hs'), ← uniformWidth, toNat_uniformStart hs', hwidth, uniformStop,
    howners]
  split
  · next hlast =>
    have hdiv := Nat.div_add_mod space.toNat count.toNat
    have hstart : s.toNat * (space.toNat / count.toNat) + space.toNat / count.toNat =
        count.toNat * (space.toNat / count.toNat) := by
      rw [← hlast, hsucc, Nat.succ_mul]
    omega
  · next hlast =>
    have hnext := succ_lt_of_ne hs' (by rwa [howners])
    rw [toNat_uniformStart hnext, hsucc, hwidth, Nat.succ_mul, Nat.add_sub_cancel_left,
      Nat.add_zero]

def Balanced (t : Topology) : Prop := ∀ s ∈ t.shards, ∀ s' ∈ t.shards, t.share s ≤ t.share s' + 1

theorem IsUniform.balanced_of_remainder_le (h : IsUniform version space count t)
    (hle : count ≤ space) (hr : space.toNat % count.toNat ≤ 1) : t.Balanced := by
  intro s hs s' hs'
  rw [h.share_eq hle ((h.mem_shards s).mp hs), h.share_eq hle ((h.mem_shards s').mp hs')]
  split <;> split <;> omega

theorem IsUniform.remainder_le_of_balanced (h : IsUniform version space count t)
    (hcount : 1 ≤ count) (hle : count ≤ space) (hb : t.Balanced) :
    space.toNat % count.toNat ≤ 1 := by
  by_cases hone : count = 1
  · rw [hone, UInt32.toNat_one, Nat.mod_one]
    exact Nat.zero_le 1
  · have hfirst : 0 < count := UInt32.lt_of_lt_of_le (by decide) hcount
    have hlast : count - 1 < count := UInt32.sub_lt (by decide) hcount
    have hshares := hb _ ((h.mem_shards _).mpr hlast) _ ((h.mem_shards _).mpr hfirst)
    rw [h.share_eq hle hlast, h.share_eq hle hfirst, if_pos (UInt32.sub_add_cancel _ _),
      if_neg (by simpa using Ne.symm hone)] at hshares
    omega

/-- Every shard owns its part of the space, rounded down, and the last shard owns the remainder too:
the shares are even exactly if that is one bucket at most. -/
theorem uniform_balanced_iff (version : UInt64) (hspace : space.toNat.isPowerOfTwo)
    (hcount : 1 ≤ count) (hle : count ≤ space) :
    ∃ t, uniform version space count = .ok t ∧ (∀ s, s ∈ t.shards ↔ s < count) ∧
      (∀ s ∈ t.shards, t.share s = space.toNat / count.toNat +
        if s + 1 = count then space.toNat % count.toNat else 0) ∧
      (t.Balanced ↔ space.toNat % count.toNat ≤ 1) := by
  have hne : count ≠ 0 :=
    UInt32.pos_iff_ne_zero.mp (UInt32.lt_of_lt_of_le (by decide) hcount)
  obtain ⟨t, ht, hu⟩ := exists_uniform version hspace hne
  refine ⟨t, ht, hu.mem_shards, ?_, hu.remainder_le_of_balanced hcount hle,
    hu.balanced_of_remainder_le hle⟩
  intro s hs
  exact hu.share_eq hle ((hu.mem_shards s).mp hs)

theorem uniform_balanced_three :
    (1024 : UInt32).toNat.isPowerOfTwo ∧ (1 : UInt32) ≤ 3 ∧ (3 : UInt32) ≤ 1024 ∧
      ∃ t, uniform 1 1024 3 = .ok t ∧ (∀ s, s ∈ t.shards ↔ s < 3) ∧
        (∀ s ∈ t.shards, t.share s = 341 + if s + 1 = 3 then 1 else 0) ∧
        (t.Balanced ↔ 1 ≤ 1) := by
  have hspace : (1024 : UInt32).toNat.isPowerOfTwo := ⟨10, by decide⟩
  exact ⟨hspace, by decide, by decide, uniform_balanced_iff 1 hspace (by decide) (by decide)⟩

theorem five_shards_unbalanced : ∃ t, uniform 1 8 5 = .ok t ∧ 0 ∈ t.shards ∧ 4 ∈ t.shards ∧
    t.share 0 = 1 ∧ t.share 4 = 4 ∧ ¬t.Balanced := by
  have hspace : (8 : UInt32).toNat.isPowerOfTwo := ⟨3, by decide⟩
  have hcount : (5 : UInt32) ≠ 0 := by decide
  obtain ⟨t, ht, hu⟩ := exists_uniform 1 hspace hcount
  have hfirst : 0 ∈ t.shards := (hu.mem_shards 0).mpr (by decide)
  have hlast : 4 ∈ t.shards := (hu.mem_shards 4).mpr (by decide)
  have hone : t.share 0 = 1 := hu.share_eq (by decide) (by decide)
  have hfour : t.share 4 = 4 := hu.share_eq (by decide) (by decide)
  refine ⟨t, ht, hfirst, hlast, hone, hfour, ?_⟩
  intro hb
  have hle := hb 4 hlast 0 hfirst
  rw [hone, hfour] at hle
  exact absurd hle (by decide)

end Topology

end ShardRouting
