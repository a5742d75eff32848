import ShardRouting.Proofs.RangeTable.Ownership
import ShardRouting.Topology.Derivation

namespace ShardRouting

namespace Layout

theorem withOwners_eq {l : Layout} (h : ∀ r ∈ l.ranges, r.shard ∈ l.shards) : l.withOwners = l := by
  have hs : l.shards.insertAll l.ranges.owners = l.shards := by
    apply OrderedSet.insertAll_eq_self
    intro a ha
    obtain ⟨r, hr, rfl⟩ := List.mem_map.mp ha
    exact h r hr
  rw [withOwners, hs]

theorem violation?_withVersion (l : Layout) (version : UInt64) :
    ({ l with version } : Layout).violation? = l.violation? := by
  rw [violation?_eq, violation?_eq]
  rfl

end Layout

namespace Topology

theorem ext_layout {t u : Topology} (h : t.toLayout = u.toLayout) : t = u := by
  cases t
  cases u
  cases h
  rfl

theorem violation?_eq_none (t : Topology) : t.violation? = none :=
  (t.wellFormed_iff t.wellFormed.owners_mem).mp t.wellFormed

theorem ofLayout_eq_ok {l : Layout} {t : Topology} :
    ofLayout l = .ok t ↔ l.withOwners.violation? = none ∧ t.toLayout = l.withOwners := by
  unfold ofLayout
  split
  · next e he => simp [he]
  · next hn =>
    rw [Except.ok.injEq, and_iff_right hn]
    constructor
    · rintro rfl
      rfl
    · intro ht
      exact ext_layout ht.symm

theorem ofLayout_eq_error {l : Layout} {e : TopologyError} :
    ofLayout l = .error e ↔ l.withOwners.violation? = some e := by
  unfold ofLayout
  split
  · next e' he => rw [he, Except.error.injEq, Option.some.injEq]
  · next hn => simp [hn]

theorem ofLayout_eq_ok_iff {l : Layout} (h : ∀ r ∈ l.ranges, r.shard ∈ l.shards) {t : Topology} :
    ofLayout l = .ok t ↔ t.toLayout = l := by
  rw [ofLayout_eq_ok, Layout.withOwners_eq h]
  refine and_iff_right_of_imp ?_
  rintro rfl
  exact t.violation?_eq_none

theorem ofLayout_eq_error_iff {l : Layout} (h : ∀ r ∈ l.ranges, r.shard ∈ l.shards)
    {e : TopologyError} : ofLayout l = .error e ↔ l.violation? = some e := by
  rw [ofLayout_eq_error, Layout.withOwners_eq h]

theorem create_parts (t : Topology) :
    create t.version t.space t.shards.toList t.ranges t.migrations = .ok t := by
  have hmoves : t.migrations.map (fun m => (m.bucket, m.toMove)) = t.moves.entries := by
    rw [migrations, List.map_map]
    exact List.map_id _
  rw [create, hmoves, OrderedSet.ofList_toList, OrderedMap.ofList_entries]
  exact (ofLayout_eq_ok_iff t.wellFormed.owners_mem).mpr rfl

theorem owner_mem (t : Topology) (b : Bucket) : t.owner b ∈ t.shards := by
  obtain ⟨q, hq, hqs⟩ := t.wellFormed.covers.owner_mem b
  rw [Layout.owner, ← hqs]
  exact t.wellFormed.owners_mem q hq

variable {t : Topology}

theorem admits_of_move? {b : Bucket} {m : Move} (h : t.move? b = some m) : t.Admits b m :=
  t.wellFormed.admits (b, m) (OrderedMap.get?_eq_some_iff.mp h)

theorem beginMigration_eq_ok {b : Bucket} {d : ShardNumber} {l : Layout} :
    t.beginMigration b d = .ok l ↔ b < t.space ∧ t.move? b = none ∧
      l = { t.toLayout with moves := t.moves.insert b ⟨t.owner b, d, .moving⟩ } := by
  rw [beginMigration]
  split
  · next h => simp [UInt32.not_lt.mpr h]
  · next h =>
    split
    · next hc =>
      obtain ⟨m, hm⟩ := Option.isSome_iff_exists.mp hc
      simp [move?, hm]
    · next hc =>
      have hm := OrderedMap.contains_eq_false_iff.mp (Bool.eq_false_iff.mpr hc)
      simp [UInt32.not_le.mp h, move?, hm, @eq_comm _ l]

theorem completeMigration_eq_ok {b : Bucket} {l : Layout} :
    t.completeMigration b = .ok l ↔ ∃ m, t.move? b = some m ∧
      l = { t.toLayout with
        ranges := t.ranges.reassign t.space b m.destination
        moves := t.moves.erase b } := by
  rw [completeMigration]
  cases t.move? b <;> simp [@eq_comm _ l]

theorem cancelMigration_eq_ok {b : Bucket} {l : Layout} :
    t.cancelMigration b = .ok l ↔ ∃ m, t.move? b = some m ∧ m.isMoving ∧
      l = { t.toLayout with moves := t.moves.erase b } := by
  rw [cancelMigration]
  cases t.move? b with
  | none => simp
  | some m => by_cases hm : m.isMoving <;> simp [hm, @eq_comm _ l]

theorem splitRange_eq_ok {b : Bucket} {s : ShardNumber} {l : Layout} :
    t.splitRange b s = .ok l ↔ b < t.space ∧ s ∈ t.shards ∧ (∀ r ∈ t.ranges, r.start ≠ b) ∧
      l = { t.toLayout with ranges := t.ranges.split b s } := by
  rw [splitRange]
  split
  · next h => simp [UInt32.not_lt.mpr h]
  · next h =>
    split
    · next hs => simp [hs]
    · next hs =>
      split
      · next hr =>
        obtain ⟨r, hr, hrb⟩ := List.any_eq_true.mp hr
        simp only [reduceCtorEq, false_iff, not_and]
        intro _ _ hall
        exact absurd (of_decide_eq_true hrb) (hall r hr)
      · next hr =>
        have hall : ∀ r ∈ t.ranges, r.start ≠ b := by simpa using hr
        rw [Except.ok.injEq]
        constructor
        · intro hl
          exact ⟨UInt32.not_le.mp h, not_not.mp hs, hall, hl.symm⟩
        · rintro ⟨-, -, -, hl⟩
          exact hl.symm

section Change

variable {d : Derivation} {l : Layout}

theorem change_frame (h : t.change d = .ok l) : l.version = t.version ∧ l.space = t.space := by
  cases d with
  | beginMigration b s => obtain ⟨-, -, rfl⟩ := beginMigration_eq_ok.mp h; exact ⟨rfl, rfl⟩
  | completeMigration b => obtain ⟨m, -, rfl⟩ := completeMigration_eq_ok.mp h; exact ⟨rfl, rfl⟩
  | cancelMigration b => obtain ⟨m, -, -, rfl⟩ := cancelMigration_eq_ok.mp h; exact ⟨rfl, rfl⟩
  | splitRange b s => obtain ⟨-, -, -, rfl⟩ := splitRange_eq_ok.mp h; exact ⟨rfl, rfl⟩
  | mergeRanges => cases h; exact ⟨rfl, rfl⟩
  | addShard s => cases h; exact ⟨rfl, rfl⟩

theorem change_covers (h : t.change d = .ok l) : l.ranges.Covers l.space := by
  have hw := t.wellFormed.covers
  cases d with
  | beginMigration b s => obtain ⟨-, -, rfl⟩ := beginMigration_eq_ok.mp h; exact hw
  | completeMigration b =>
    obtain ⟨m, hm, rfl⟩ := completeMigration_eq_ok.mp h
    exact hw.reassign (admits_of_move? hm).inSpace m.destination
  | cancelMigration b => obtain ⟨m, -, -, rfl⟩ := cancelMigration_eq_ok.mp h; exact hw
  | splitRange b s =>
    obtain ⟨hb, -, hnew, rfl⟩ := splitRange_eq_ok.mp h
    exact hw.split hb hnew s
  | mergeRanges => cases h; exact hw.merge
  | addShard s => cases h; exact hw

theorem change_owners_mem (h : t.change d = .ok l) : ∀ r ∈ l.ranges, r.shard ∈ l.shards := by
  have hw := t.wellFormed.owners_mem
  cases d with
  | beginMigration b s => obtain ⟨-, -, rfl⟩ := beginMigration_eq_ok.mp h; exact hw
  | completeMigration b =>
    obtain ⟨m, hm, rfl⟩ := completeMigration_eq_ok.mp h
    intro r hr
    rcases t.wellFormed.covers.shard_of_mem_reassign hr with hs | ⟨q, hq, hs⟩
    · exact hs ▸ (admits_of_move? hm).destination_mem
    · exact hs ▸ hw q hq
  | cancelMigration b => obtain ⟨m, -, -, rfl⟩ := cancelMigration_eq_ok.mp h; exact hw
  | splitRange b s =>
    obtain ⟨-, hs, -, rfl⟩ := splitRange_eq_ok.mp h
    intro r hr
    rcases RangeTable.mem_split.mp hr with rfl | hr
    · exact hs
    · exact hw r hr
  | mergeRanges =>
    cases h
    intro r hr
    exact hw r ((RangeTable.merge_sublist _).subset hr)
  | addShard s =>
    cases h
    intro r hr
    exact OrderedSet.mem_insert.mpr (.inr (hw r hr))

theorem derive_eq (t : Topology) (d : Derivation) :
    t.derive d =
      match t.change d with
      | .error e => .error (.refused e)
      | .ok l =>
        match addWords t.version 1 with
        | .error x => .error (.trapped x)
        | .ok version => Attempt.ofExcept (ofLayout { l with version }) := by
  rw [derive]
  cases h : t.change d with
  | error e => rfl
  | ok l =>
    rw [← (change_frame h).1]
    change (do
      let version ← Attempt.ofTrap (addWords l.version 1)
      Attempt.ofExcept (ofLayout { l with version })) = _
    cases addWords l.version 1 <;> rfl

theorem derive_eq_ok_iff {t' : Topology} :
    t.derive d = .ok t' ↔ ∃ l, t.change d = .ok l ∧ t'.version.toNat = t.version.toNat + 1 ∧
      t'.toLayout = { l with version := t'.version } := by
  rw [derive_eq]
  cases hc : t.change d with
  | error e => simp
  | ok l =>
    have hm := change_owners_mem hc
    simp only [Except.ok.injEq, exists_eq_left']
    constructor
    · intro h
      cases ha : addWords t.version 1 with
      | error x => rw [ha] at h; exact absurd h (by simp)
      | ok version =>
        rw [ha] at h
        have ho := Attempt.ofExcept_eq_ok.mp h
        have hl := (ofLayout_eq_ok_iff (l := { l with version }) hm).mp ho
        have hversion : t'.version = version := congrArg Layout.version hl
        exact ⟨hversion ▸ (addWords_eq_ok.mp ha).symm, hversion ▸ hl⟩
    · rintro ⟨hv, hl⟩
      rw [addWords_eq_ok.mpr hv.symm]
      apply Attempt.ofExcept_eq_ok.mpr
      exact (ofLayout_eq_ok_iff (l := { l with version := t'.version }) hm).mpr hl

theorem space_of_derive {t' : Topology} (h : t.derive d = .ok t') : t'.space = t.space := by
  obtain ⟨l, hl, -, ht'⟩ := derive_eq_ok_iff.mp h
  exact (congrArg Layout.space ht').trans (change_frame hl).2

theorem derive_eq_refused_iff {e : TopologyError} :
    t.derive d = .error (.refused e) ↔ t.change d = .error e ∨
      ∃ l, t.change d = .ok l ∧ t.version.toNat + 1 < UInt64.size ∧ l.violation? = some e := by
  rw [derive_eq]
  cases hc : t.change d with
  | error e' => simp
  | ok l =>
    have hm := change_owners_mem hc
    simp only [reduceCtorEq, false_or, Except.ok.injEq, exists_eq_left']
    by_cases hv : t.version.toNat + 1 < UInt64.size
    · have ha : addWords t.version 1 = .ok (t.version + 1) := if_pos hv
      have hl : ofLayout { l with version := t.version + 1 } = .error e ↔
          l.violation? = some e := by
        rw [← l.violation?_withVersion (t.version + 1)]
        exact ofLayout_eq_error_iff (l := { l with version := t.version + 1 }) hm
      simp only [ha, Attempt.ofExcept_eq_refused, hl, hv, true_and]
    · have ha : addWords t.version 1 = .error .additionOverflow := if_neg hv
      rw [ha]
      constructor
      · intro h
        cases h
      · rintro ⟨h, -⟩
        exact absurd h hv

theorem derive_eq_trapped_iff {x : Trap} :
    t.derive d = .error (.trapped x) ↔
      (∃ l, t.change d = .ok l) ∧ t.version.toNat + 1 = UInt64.size ∧ x = .additionOverflow := by
  rw [derive_eq]
  cases hc : t.change d with
  | error e => simp
  | ok l =>
    have hsize := t.version.toNat_lt_size
    by_cases hv : t.version.toNat + 1 < UInt64.size
    · have ha : addWords t.version 1 = .ok (t.version + 1) := if_pos hv
      have hne : t.version.toNat + 1 ≠ UInt64.size := Nat.ne_of_lt hv
      simp only [ha, hne, false_and, and_false, iff_false]
      cases ofLayout { l with version := t.version + 1 } <;> simp [Attempt.ofExcept]
    · have ha : addWords t.version 1 = .error .additionOverflow := if_neg hv
      have heq : t.version.toNat + 1 = UInt64.size := by omega
      simp [ha, heq, eq_comm]

theorem exists_derive (h : t.change d = .ok l)
    (hv : t.version.toNat + 1 < UInt64.size) (hn : l.violation? = none) :
    ∃ t', t.derive d = .ok t' ∧ t'.version.toNat = t.version.toNat + 1 ∧
      t'.toLayout = { l with version := t'.version } := by
  have hm := change_owners_mem h
  have hw : ({ l with version := t.version + 1 } : Layout).WellFormed := by
    rw [Layout.wellFormed_iff { l with version := t.version + 1 } hm, l.violation?_withVersion, hn]
  have hversion : (t.version + 1).toNat = t.version.toNat + 1 := by
    rw [UInt64.toNat_add, UInt64.toNat_one, Nat.mod_eq_of_lt hv]
  exact ⟨⟨_, hw⟩, derive_eq_ok_iff.mpr ⟨l, h, hversion, rfl⟩, hversion, rfl⟩

/-- The change `d` of `t` is refused for the causes in `refuses` and no others, and where there is
none it has a successor; every successor is as `makes` says. -/
structure Outcome (t : Topology) (d : Derivation) (refuses : TopologyError → Prop)
    (makes : Topology → Prop) : Prop where
  refused : ∀ e, t.derive d = .error (.refused e) ↔ refuses e
  succeeds : (∀ e, ¬refuses e) → ∃ t', t.derive d = .ok t'
  made : ∀ t', t.derive d = .ok t' → makes t'

theorem Outcome.exists_derive_iff {refuses : TopologyError → Prop} {makes : Topology → Prop}
    (h : t.Outcome d refuses makes) : (∃ t', t.derive d = .ok t') ↔ ∀ e, ¬refuses e := by
  constructor
  · rintro ⟨t', ht'⟩ e he
    have hrefused := (h.refused e).mpr he
    rw [ht'] at hrefused
    cases hrefused
  · exact h.succeeds

theorem outcome_of_change {refuses : TopologyError → Prop} {makes : Topology → Prop}
    (hv : t.version.toNat + 1 < UInt64.size)
    (hrefuses : ∀ e, refuses e ↔
      t.change d = .error e ∨ ∃ l, t.change d = .ok l ∧ l.violation? = some e)
    (hmakes : ∀ l t', t.change d = .ok l → t'.version.toNat = t.version.toNat + 1 →
      t'.toLayout = { l with version := t'.version } → makes t') :
    t.Outcome d refuses makes where
  refused := by
    intro e
    rw [derive_eq_refused_iff, hrefuses]
    simp only [hv, true_and]
  succeeds := by
    intro hnone
    cases hc : t.change d with
    | error e => exact absurd ((hrefuses e).mpr (.inl hc)) (hnone e)
    | ok l =>
      have hviolation : l.violation? = none := by
        apply Option.eq_none_iff_forall_ne_some.mpr
        intro e he
        exact hnone e ((hrefuses e).mpr (.inr ⟨l, hc, he⟩))
      obtain ⟨t', ht', -⟩ := exists_derive hc hv hviolation
      exact ⟨t', ht'⟩
  made := by
    intro t' ht'
    obtain ⟨l, hl, hversion, hlayout⟩ := derive_eq_ok_iff.mp ht'
    exact hmakes l t' hl hversion hlayout

end Change

end Topology

end ShardRouting
