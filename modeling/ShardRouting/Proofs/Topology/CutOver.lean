import ShardRouting.Proofs.Topology.Derivation
import ShardRouting.Routing.Router

namespace ShardRouting

theorem Router.decideBucket_of_lt (r : Router) {t : Topology} {b : Bucket} (hb : b < t.space) :
    (r.decideBucket t b).value = .ok (r.decision t b) := by
  rw [decideBucket, if_neg (UInt32.not_le.mpr hb)]
  rfl

namespace Topology

inductive CutOver (t : Topology) : Derivation → Bucket → ShardNumber → Prop
  | completed {b : Bucket} {m : Move} (recorded : t.move? b = some m) (copying : m.isMoving) :
    CutOver t (.completeMigration b) b m.destination
  | split {start b : Bucket} {s : ShardNumber} (le : start ≤ b)
    (lt : b < t.ranges.stop t.space (t.ranges.index start)) (unrecorded : t.move? b = none) :
    CutOver t (.splitRange start s) b s

theorem CutOver.unique {t : Topology} {d : Derivation} {b : Bucket} {s s' : ShardNumber}
    (h : t.CutOver d b s) (h' : t.CutOver d b s') : s = s' := by
  cases h with
  | completed hm _ =>
    cases h' with
    | completed hm' _ => rw [Option.some.inj (hm.symm.trans hm')]
  | split _ _ _ =>
    cases h' with
    | split _ _ _ => rfl

variable {t t' : Topology} {d : Derivation} {b : Bucket}

theorem readShard_of_move? {m : Move} (h : t.move? b = some m) : t.readShard b = m.readShard := by
  rw [readShard, h]

theorem readShard_of_unrecorded (h : t.move? b = none) : t.readShard b = t.owner b := by
  rw [readShard, h]

theorem readShard_of_moving {m : Move} (h : t.move? b = some m) (hm : m.isMoving) :
    t.readShard b = t.owner b := by
  have hs : m.status = .moving := of_decide_eq_true hm
  rw [readShard_of_move? h, Move.readShard, hs]
  exact ((admits_of_move? h).owned hm).symm

theorem readShard_congr (hm : t'.move? b = t.move? b) (ho : t'.owner b = t.owner b) :
    t'.readShard b = t.readShard b := by
  rw [readShard, readShard, hm, ho]

def FollowsCutOver (t : Topology) (d : Derivation) (b : Bucket) (t' : Topology) : Prop :=
  t.CutOver d b (t'.readShard b) ∨ t'.readShard b = t.readShard b ∧ ∀ s, ¬t.CutOver d b s

theorem followsCutOver_start {c : Bucket} {s : ShardNumber} (hnone : t.move? c = none)
    (hmove : t'.move? b = if b = c then some ⟨t.owner c, s, .moving⟩ else t.move? b)
    (howner : t'.owner b = t.owner b) : t.FollowsCutOver (.beginMigration c s) b t' := by
  refine .inr ⟨?_, nofun⟩
  by_cases hc : b = c
  · rw [if_pos hc] at hmove
    rw [readShard_of_moving hmove rfl, howner, hc, readShard_of_unrecorded hnone]
  · rw [if_neg hc] at hmove
    exact readShard_congr hmove howner

theorem followsCutOver_complete {c : Bucket} {m : Move} (hm : t.move? c = some m)
    (hmove : t'.move? b = if b = c then none else t.move? b)
    (howner : t'.owner b = if b = c then m.destination else t.owner b) :
    t.FollowsCutOver (.completeMigration c) b t' := by
  by_cases hc : b = c
  · subst hc
    rw [if_pos rfl] at hmove howner
    rw [FollowsCutOver, readShard_of_unrecorded hmove, howner]
    cases hs : m.status with
    | moving => exact .inl (.completed hm (decide_eq_true hs))
    | done =>
      refine .inr ⟨by rw [readShard_of_move? hm, Move.readShard, hs], ?_⟩
      rintro s ⟨hm', hcopying⟩
      obtain rfl := Option.some.inj (hm'.symm.trans hm)
      rw [Move.isMoving, hs] at hcopying
      exact absurd hcopying (by decide)
  · rw [if_neg hc] at hmove howner
    refine .inr ⟨readShard_congr hmove howner, ?_⟩
    rintro s ⟨-, -⟩
    exact hc rfl

theorem followsCutOver_cancel {c : Bucket} {m : Move} (hm : t.move? c = some m)
    (hcopying : m.isMoving) (hmove : t'.move? b = if b = c then none else t.move? b)
    (howner : t'.owner b = t.owner b) : t.FollowsCutOver (.cancelMigration c) b t' := by
  refine .inr ⟨?_, nofun⟩
  by_cases hc : b = c
  · -- a copying record's source owns the bucket, so dropping the record moves nothing
    subst hc
    rw [if_pos rfl] at hmove
    rw [readShard_of_unrecorded hmove, howner, readShard_of_moving hm hcopying]
  · rw [if_neg hc] at hmove
    exact readShard_congr hmove howner

theorem followsCutOver_split {c : Bucket} {s : ShardNumber} (hmove : t'.move? b = t.move? b)
    (howner : t'.owner b =
      if c ≤ b ∧ b < t.ranges.stop t.space (t.ranges.index c) then s else t.owner b) :
    t.FollowsCutOver (.splitRange c s) b t' := by
  cases hm : t.move? b with
  | some m =>
    refine .inr ⟨?_, ?_⟩
    · rw [readShard_of_move? hm, readShard_of_move? (hmove.trans hm)]
    · intro _ hcut
      cases hcut with
      | split _ _ hnone => exact absurd (hm.symm.trans hnone) (by simp)
  | none =>
    rw [FollowsCutOver, readShard_of_unrecorded (hmove.trans hm), readShard_of_unrecorded hm]
    split at howner
    · next hin =>
      rw [howner]
      exact .inl (.split hin.1 hin.2 hm)
    · next hout =>
      refine .inr ⟨howner, ?_⟩
      intro _ hcut
      cases hcut with
      | split hle hlt _ => exact hout ⟨hle, hlt⟩

theorem followsCutOver_derive (h : t.derive d = .ok t') (hb : b < t.space) :
    t.FollowsCutOver d b t' := by
  obtain ⟨l, hl, -, ht'⟩ := derive_eq_ok_iff.mp h
  have hmove : t'.move? b = l.moves.get? b := congrArg (·.moves.get? b) ht'
  have howner : t'.owner b = l.ranges.owner b := congrArg (·.ranges.owner b) ht'
  have hw := t.wellFormed.covers
  cases d with
  | beginMigration c s =>
    obtain ⟨-, hnone, rfl⟩ := beginMigration_eq_ok.mp hl
    exact followsCutOver_start hnone (hmove.trans (OrderedMap.get?_insert ..)) howner
  | completeMigration c =>
    obtain ⟨m, hm, rfl⟩ := completeMigration_eq_ok.mp hl
    have hc := (admits_of_move? hm).inSpace
    exact followsCutOver_complete hm (hmove.trans (OrderedMap.get?_erase ..))
      (howner.trans (hw.owner_reassign hc m.destination hb))
  | cancelMigration c =>
    obtain ⟨m, hm, hcopying, rfl⟩ := cancelMigration_eq_ok.mp hl
    exact followsCutOver_cancel hm hcopying (hmove.trans (OrderedMap.get?_erase ..)) howner
  | splitRange c s =>
    obtain ⟨hc, -, hnew, rfl⟩ := splitRange_eq_ok.mp hl
    exact followsCutOver_split hmove (howner.trans (hw.owner_split hc hnew s hb))
  | mergeRanges =>
    cases hl
    exact .inr ⟨readShard_congr hmove (howner.trans (hw.owner_merge b)), nofun⟩
  | addShard s =>
    cases hl
    exact .inr ⟨readShard_congr hmove howner, nofun⟩

/-- The router reads a bucket at another shard after a change only if the change cuts it over, and
then at the shard that it is cut over to. -/
theorem readShard_changes_only_at_cutOver (r : Router) (h : t.derive d = .ok t')
    (hb : b < t.space) :
    ∃ before after, (r.decideBucket t b).value = .ok before ∧
      (r.decideBucket t' b).value = .ok after ∧
      (∀ s, t.CutOver d b s → after.readShard = s) ∧
      (after.readShard ≠ before.readShard → t.CutOver d b after.readShard) := by
  have hspace : t'.space = t.space := by
    obtain ⟨l, hl, -, ht'⟩ := derive_eq_ok_iff.mp h
    exact (congrArg Layout.space ht').trans (change_frame hl).2
  refine ⟨r.decision t b, r.decision t' b, ?_, ?_, ?_, ?_⟩
  · rw [Router.decideBucket, if_neg (UInt32.not_le.mpr hb)]
    rfl
  · rw [Router.decideBucket, if_neg (UInt32.not_le.mpr (hspace ▸ hb))]
    rfl
  · intro s hs
    rcases followsCutOver_derive h hb with hcut | ⟨-, hnot⟩
    · exact hcut.unique hs
    · exact absurd hs (hnot s)
  · intro hne
    rcases followsCutOver_derive h hb with hcut | ⟨heq, -⟩
    · exact hcut
    · exact absurd heq hne

def copying : Topology where
  toLayout := ⟨1, 16, .ofList [0, 1], [⟨0, 0⟩, ⟨8, 1⟩], .ofList [(10, ⟨1, 0, .moving⟩)]⟩
  wellFormed := (Layout.wellFormed_iff _ (by decide)).mpr (by decide)

def copied : Topology where
  toLayout := ⟨2, 16, .ofList [0, 1], [⟨0, 0⟩, ⟨8, 1⟩, ⟨10, 0⟩, ⟨11, 1⟩], .empty⟩
  wellFormed := (Layout.wellFormed_iff _ (by decide)).mpr (by decide)

theorem readShard_changes_copying :
    copying.derive (.completeMigration 10) = .ok copied ∧
      ∃ before after, ((⟨':', .block⟩ : Router).decideBucket copying 10).value = .ok before ∧
        ((⟨':', .block⟩ : Router).decideBucket copied 10).value = .ok after ∧
        (∀ s, copying.CutOver (.completeMigration 10) 10 s → after.readShard = s) ∧
        (after.readShard ≠ before.readShard →
          copying.CutOver (.completeMigration 10) 10 after.readShard) :=
  ⟨rfl, readShard_changes_only_at_cutOver ⟨':', .block⟩ rfl (by decide)⟩

end Topology

end ShardRouting
