import ShardRouting.Proofs.Topology.Derivation

namespace ShardRouting

theorem findSome?_eq_of_mem {α β : Type} {f : α → Option β} {l : List α} {x : α} (hx : x ∈ l)
    (h : ∀ y ∈ l, y ≠ x → f y = none) : l.findSome? f = f x := by
  cases hf : l.findSome? f with
  | none => exact (List.findSome?_eq_none_iff.mp hf x hx).symm
  | some v =>
    obtain ⟨y, hy, hfy⟩ := List.exists_of_findSome?_eq_some hf
    by_cases hyx : y = x
    · rw [← hfy, hyx]
    · exact absurd (hfy.symm.trans (h y hy hyx)) (by simp)

inductive MoveStep
  | start (destination : ShardNumber)
  | complete
  | cancel
deriving DecidableEq

def MoveStep.derivation (b : Bucket) : MoveStep → Derivation
  | .start d => .beginMigration b d
  | .complete => .completeMigration b
  | .cancel => .cancelMigration b

namespace Topology

def refusal? (t : Topology) (b : Bucket) : MoveStep → Option TopologyError
  | .start d =>
    if t.space ≤ b then some (.migrationOutOfSpace b t.space)
    else if (t.move? b).isSome then some (.migrationExists b)
    else t.moveViolation? b ⟨t.owner b, d, .moving⟩
  | .complete => if (t.move? b).isSome then none else some (.noMigration b)
  | .cancel => if (t.move? b).any Move.isMoving then none else some (.noMigration b)

def recordAfter (t : Topology) (b : Bucket) : MoveStep → Option Move
  | .start d => some ⟨t.owner b, d, .moving⟩
  | .complete => none
  | .cancel => none

def ownerAfter (t : Topology) (b : Bucket) : MoveStep → ShardNumber
  | .start _ => t.owner b
  | .complete => ((t.move? b).map (·.destination)).getD (t.owner b)
  | .cancel => t.owner b

structure Moved (t : Topology) (b : Bucket) (m : MoveStep) (t' : Topology) : Prop where
  version : t'.version.toNat = t.version.toNat + 1
  space : t'.space = t.space
  shards : t'.shards = t.shards
  move : ∀ c, t'.move? c = if c = b then t.recordAfter b m else t.move? c
  owner : ∀ c < t.space, t'.owner c = if c = b then t.ownerAfter b m else t.owner c
  joined : m = .complete → t'.ranges.Joined
  ranges : m ≠ .complete → t'.ranges = t.ranges

variable {t : Topology} {b : Bucket}

theorem violation?_withMove (t : Topology) (b : Bucket) (m : Move) :
    ({ t.toLayout with moves := t.moves.insert b m } : Layout).violation? =
      t.moveViolation? b m := by
  have hw := t.wellFormed
  rw [Layout.violation?_eq, if_pos hw.powerOfTwo,
    (RangeTable.violation?_eq_none_iff _ _).mpr hw.covers, Option.none_or]
  have hplace := fun e => OrderedMap.mem_place_iff (e := (b, m)) (x := e) t.moves.ascending
  apply findSome?_eq_of_mem (x := (b, m))
  · exact (hplace _).mpr (.inl rfl)
  · intro e he hne
    obtain ⟨hmem, -⟩ := ((hplace e).mp he).resolve_left hne
    have hnone := (Layout.moveViolation?_eq_none_iff _ _ _).mpr (hw.admits e hmem)
    exact hnone

theorem wellFormed_erase (t : Topology) (b : Bucket) (ranges : RangeTable)
    (hc : ranges.Covers t.space) (hm : ∀ r ∈ ranges, r.shard ∈ t.shards)
    (ho : ∀ c < t.space, c ≠ b → ranges.owner c = t.owner c) :
    ({ t.toLayout with ranges, moves := t.moves.erase b } : Layout).WellFormed where
  powerOfTwo := t.wellFormed.powerOfTwo
  covers := hc
  owners_mem := hm
  admits := by
    intro e he
    obtain ⟨hmem, hne⟩ := List.mem_filter.mp he
    have ha := t.wellFormed.admits e hmem
    refine ⟨ha.inSpace, ha.apart, ha.source_mem, ha.destination_mem, ?_⟩
    intro hmoving
    exact (ho e.1 ha.inSpace (of_decide_eq_true hne)).trans (ha.owned hmoving)

theorem moved_of_layout {m : MoveStep} {t' : Topology} {ranges : RangeTable}
    {moves : OrderedMap Bucket Move} (hv : t'.version.toNat = t.version.toNat + 1)
    (ht : t'.toLayout = { t.toLayout with version := t'.version, ranges, moves })
    (hmove : ∀ c, moves.get? c = if c = b then t.recordAfter b m else t.move? c)
    (howner : ∀ c < t.space, ranges.owner c = if c = b then t.ownerAfter b m else t.owner c)
    (hjoined : m = .complete → ranges.Joined) (hranges : m ≠ .complete → ranges = t.ranges) :
    t.Moved b m t' where
  version := hv
  space := by rw [ht]
  shards := by rw [ht]
  move := by
    intro c
    rw [move?, ht]
    exact hmove c
  owner := by
    intro c hc
    rw [Layout.owner, ht]
    exact howner c hc
  joined := by rw [ht]; exact hjoined
  ranges := by rw [ht]; exact hranges

theorem owner_eq_ite (t : Topology) (b c : Bucket) :
    t.owner c = if c = b then t.owner b else t.owner c := by
  split
  · next h => rw [h]
  · rfl

def Decided (t : Topology) (b : Bucket) (m : MoveStep) : Prop :=
  (∃ e, t.refusal? b m = some e ∧ t.derive (m.derivation b) = .error (.refused e)) ∨
    (t.refusal? b m = none ∧ ∃ t', t.derive (m.derivation b) = .ok t' ∧ t.Moved b m t')

theorem decided_of_change_error {m : MoveStep} {e : TopologyError} (hr : t.refusal? b m = some e)
    (h : t.change (m.derivation b) = .error e) : t.Decided b m :=
  .inl ⟨e, hr, derive_eq_refused_iff.mpr (.inl h)⟩

theorem decided_start (d : ShardNumber) (hv : t.version.toNat + 1 < UInt64.size) :
    t.Decided b (.start d) := by
  by_cases hb : t.space ≤ b
  · apply decided_of_change_error
    · rw [refusal?, if_pos hb]
    · rw [MoveStep.derivation, change, beginMigration, if_pos hb]
  cases hm : t.move? b with
  | some m =>
    have hc : t.moves.contains b := by rw [OrderedMap.contains, ← move?, hm]; rfl
    apply decided_of_change_error
    · rw [refusal?, if_neg hb, hm, if_pos Option.isSome_some]
    · rw [MoveStep.derivation, change, beginMigration, if_neg hb, if_pos hc]
  | none =>
    have hl : t.change (.beginMigration b d) = _ :=
      beginMigration_eq_ok.mpr ⟨UInt32.not_le.mp hb, hm, rfl⟩
    have hviolation := t.violation?_withMove b ⟨t.owner b, d, .moving⟩
    have hr : t.refusal? b (.start d) = t.moveViolation? b ⟨t.owner b, d, .moving⟩ := by
      rw [refusal?, if_neg hb, hm, if_neg (by simp)]
    cases hx : t.moveViolation? b ⟨t.owner b, d, .moving⟩ with
    | some e =>
      refine .inl ⟨e, hr.trans hx, ?_⟩
      exact derive_eq_refused_iff.mpr (.inr ⟨_, hl, hv, hviolation.trans hx⟩)
    | none =>
      obtain ⟨t', hd, hversion, ht⟩ := exists_derive hl hv (hviolation.trans hx)
      refine .inr ⟨hr.trans hx, t', hd, moved_of_layout hversion ht ?_ ?_ ?_ fun _ => rfl⟩
      · intro c
        rw [OrderedMap.get?_insert]
        rfl
      · intro c _
        exact t.owner_eq_ite b c
      · intro h
        cases h

theorem decided_complete (hv : t.version.toNat + 1 < UInt64.size) : t.Decided b .complete := by
  cases hm : t.move? b with
  | none =>
    apply decided_of_change_error
    · rw [refusal?, hm, if_neg (by simp)]
    · rw [MoveStep.derivation, change, completeMigration, hm]
  | some m =>
    have hl : t.change (.completeMigration b) = _ := completeMigration_eq_ok.mpr ⟨m, hm, rfl⟩
    have howner : ∀ c < t.space, (t.ranges.reassign t.space b m.destination).owner c =
        if c = b then m.destination else t.owner c := fun c hc =>
      t.wellFormed.covers.owner_reassign (admits_of_move? hm).inSpace m.destination hc
    have hcovers := change_covers hl
    have hmem := change_owners_mem hl
    have hw := t.wellFormed_erase b (t.ranges.reassign t.space b m.destination) hcovers hmem
      fun c hc hcb => (howner c hc).trans (if_neg hcb)
    have hn := (Layout.wellFormed_iff _ hmem).mp hw
    obtain ⟨t', hd, hversion, ht⟩ := exists_derive hl hv hn
    have hr : t.refusal? b .complete = none := by rw [refusal?, hm, if_pos Option.isSome_some]
    refine .inr ⟨hr, t', hd, moved_of_layout hversion ht ?_ ?_ ?_ fun h => absurd rfl h⟩
    · intro c
      rw [OrderedMap.get?_erase]
      rfl
    · intro c hc
      rw [howner c hc, ownerAfter, hm]
      rfl
    · intro _
      exact RangeTable.joined_reassign _ _ _ _

theorem decided_cancel (hv : t.version.toNat + 1 < UInt64.size) : t.Decided b .cancel := by
  by_cases hmoving : (t.move? b).any Move.isMoving
  · obtain ⟨m, hm, hcopying⟩ := (Option.any_eq_true _ _).mp hmoving
    have hl : t.change (.cancelMigration b) = _ := cancelMigration_eq_ok.mpr ⟨m, hm, hcopying, rfl⟩
    have hmem := change_owners_mem hl
    have hw := t.wellFormed_erase b t.ranges t.wellFormed.covers hmem fun _ _ _ => rfl
    have hn := (Layout.wellFormed_iff _ hmem).mp hw
    obtain ⟨t', hd, hversion, ht⟩ := exists_derive hl hv hn
    have hr : t.refusal? b .cancel = none := by rw [refusal?, if_pos hmoving]
    refine .inr ⟨hr, t', hd, moved_of_layout hversion ht ?_ ?_ ?_ fun _ => rfl⟩
    · intro c
      rw [OrderedMap.get?_erase]
      rfl
    · intro c _
      exact t.owner_eq_ite b c
    · intro h
      cases h
  · apply decided_of_change_error
    · rw [refusal?, if_neg hmoving]
    · rw [MoveStep.derivation, change, cancelMigration, if_neg hmoving]

theorem decided (b : Bucket) (m : MoveStep) (hv : t.version.toNat + 1 < UInt64.size) :
    t.Decided b m := by
  cases m with
  | start d => exact decided_start d hv
  | complete => exact decided_complete hv
  | cancel => exact decided_cancel hv

end Topology

end ShardRouting
