import ShardRouting.Proofs.Topology.MoveSteps

namespace ShardRouting

theorem RangeTable.Covers.nodup_starts {space : UInt32} {r : RangeTable} (h : r.Covers space) :
    (r.map (·.start)).Nodup :=
  (List.pairwise_map.mpr h.ascending).imp UInt32.ne_of_lt

namespace Topology

variable {t : Topology} {b : Bucket}

theorem derive_complete_of_unrecorded (h : t.move? b = none) :
    t.derive (.completeMigration b) = .error (.refused (.noMigration b)) := by
  apply derive_eq_refused_iff.mpr
  rw [change, completeMigration, h]
  exact .inl rfl

theorem derive_complete_of_last_version {m : Move} (h : t.move? b = some m)
    (hv : t.version.toNat + 1 = UInt64.size) :
    t.derive (.completeMigration b) = .error (.trapped .additionOverflow) :=
  derive_eq_trapped_iff.mpr ⟨⟨_, completeMigration_eq_ok.mpr ⟨m, h, rfl⟩⟩, hv, rfl⟩

structure Completes (t : Topology) (b : Bucket) (m : Move) (t' : Topology) : Prop where
  version : t'.version.toNat = t.version.toNat + 1
  space : t'.space = t.space
  shards : t'.shards = t.shards
  moves : ∀ c, t'.move? c = if c = b then none else t.move? c
  owner : t'.owner b = m.destination
  others : ∀ c < t.space, c ≠ b → t'.owner c = t.owner c
  joined : t'.ranges.Joined
  starts : (t'.ranges.map (·.start)).Nodup

theorem completes_of_moved {m : Move} {t' : Topology} (hm : t.move? b = some m)
    (h : t.Moved b .complete t') : t.Completes b m t' where
  version := h.version
  space := h.space
  shards := h.shards
  moves := h.move
  owner := by
    rw [h.owner b (admits_of_move? hm).inSpace, if_pos rfl, ownerAfter, hm]
    rfl
  others := by
    intro c hc hcb
    rw [h.owner c hc, if_neg hcb]
  joined := h.joined rfl
  starts := t'.wellFormed.covers.nodup_starts

theorem exists_completion {m : Move} (hm : t.move? b = some m)
    (hv : t.version.toNat + 1 < UInt64.size) :
    ∃ t', t.derive (.completeMigration b) = .ok t' ∧ t.Completes b m t' := by
  have hnone : t.refusal? b .complete = none := by rw [refusal?, hm, if_pos Option.isSome_some]
  rcases decided_complete (b := b) hv with ⟨e, he, -⟩ | ⟨-, t', hd, hmoved⟩
  · rw [hnone] at he
    cases he
  · exact ⟨t', hd, completes_of_moved hm hmoved⟩

theorem succ_lt_of_lt_space (hb : b < t.space) : b.toNat + 1 < UInt32.size := by
  have hspace := t.space.toNat_lt_size
  rw [UInt32.lt_iff_toNat_lt] at hb
  omega

/-- A completion is refused exactly without a record and traps exactly at the last version. In all
other cases there is a successor, in which one bucket has changed hands. -/
theorem completion_moves_one_bucket (t : Topology) (b : Bucket) :
    (∀ e, t.derive (.completeMigration b) = .error (.refused e) ↔
      t.move? b = none ∧ e = .noMigration b) ∧
    (∀ x, t.derive (.completeMigration b) = .error (.trapped x) ↔
      (t.move? b).isSome ∧ t.version.toNat + 1 = UInt64.size ∧ x = .additionOverflow) ∧
    ∀ m, t.move? b = some m →
      b.toNat + 1 < UInt32.size ∧
        (t.version.toNat + 1 < UInt64.size →
          ∃ t', t.derive (.completeMigration b) = .ok t' ∧ t.Completes b m t') := by
  cases hm : t.move? b with
  | none =>
    rw [derive_complete_of_unrecorded hm]
    refine ⟨?_, ?_, nofun⟩
    · intro e
      simp [eq_comm]
    · intro x
      simp
  | some m =>
    have hb := (admits_of_move? hm).inSpace
    have hsize := t.version.toNat_lt_size
    by_cases hv : t.version.toNat + 1 < UInt64.size
    · obtain ⟨t', hd, hcompletes⟩ := exists_completion hm hv
      rw [hd]
      refine ⟨by simp, ?_, ?_⟩
      · intro x
        simp [Nat.ne_of_lt hv]
      · rintro _ ⟨⟩
        exact ⟨succ_lt_of_lt_space hb, fun _ => ⟨t', rfl, hcompletes⟩⟩
    · have hlast : t.version.toNat + 1 = UInt64.size := by omega
      rw [derive_complete_of_last_version hm hlast]
      refine ⟨by simp, ?_, ?_⟩
      · intro x
        simp [hlast, eq_comm]
      · rintro _ ⟨⟩
        exact ⟨succ_lt_of_lt_space hb, fun h => absurd h hv⟩

end Topology

end ShardRouting
