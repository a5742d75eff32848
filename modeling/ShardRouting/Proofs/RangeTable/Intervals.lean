import ShardRouting.Proofs.RangeTable.Lookup

namespace ShardRouting

structure Partitions (space : UInt32) (owned : ShardNumber → List (Bucket × UInt32)) : Prop where
  nonempty : ∀ s, ∀ p ∈ owned s, p.1 < p.2
  ordered : ∀ s, (owned s).Pairwise (·.2 ≤ ·.1)
  apart : ∀ s s', s ≠ s' → ∀ p ∈ owned s, ∀ q ∈ owned s', p.2 ≤ q.1 ∨ q.2 ≤ p.1
  covered : ∀ b, b < space ↔ ∃ s, ∃ p ∈ owned s, p.1 ≤ b ∧ b < p.2

namespace RangeTable

structure OnlyHolder (space : UInt32) (t : RangeTable) (b : Bucket) (i : Nat) : Prop where
  holds_iff : ∀ j, t.Holds space b j ↔ j = i
  scanned : scan? b t = some i
  greatest : ∃ r, t[i]? = some r ∧ r.start ≤ b ∧ ∀ q ∈ t, q.start ≤ b → q.start ≤ r.start

variable {space : UInt32} {t : RangeTable}

theorem Covers.onlyHolder (h : t.Covers space) {b : Bucket} (hb : b < space) :
    t.OnlyHolder space b (t.index b) where
  holds_iff := h.holds_iff hb
  scanned := (scan?_eq_some_iff_lastUpTo t b _).mpr ((h.lastUpTo_iff b _).mpr rfl)
  greatest := by
    obtain ⟨⟨r, hr, hrb⟩, hlast⟩ := (h.lastUpTo_iff b _).mpr rfl
    refine ⟨r, hr, hrb, ?_⟩
    intro q hq hqb
    obtain ⟨j, hj⟩ := List.mem_iff_getElem?.mp hq
    rcases Nat.lt_trichotomy j (t.index b) with hlt | heq | hgt
    · exact UInt32.le_of_lt (Ascending.start_lt h.ascending hlt hj hr)
    · rw [heq, hr] at hj
      exact Option.some.inj hj ▸ UInt32.le_refl _
    · exact absurd hqb (UInt32.not_le.mpr (hlast j q hgt hj))

theorem getElem?_intervals (space : UInt32) (t : RangeTable) (i : Nat) :
    (t.intervals space)[i]? = t[i]?.map fun r => (r.start, t.stop space i, r.shard) := by
  induction t generalizing i with
  | nil => rfl
  | cons r rest ih =>
    cases i with
    | zero => rfl
    | succ i => exact ih i

theorem nextStart_le (h : t.Ascending) {r : BucketRange} (hr : r ∈ t) :
    nextStart space t ≤ r.start := by
  cases t with
  | nil => exact absurd hr List.not_mem_nil
  | cons q rest =>
    rcases List.mem_cons.mp hr with rfl | hr
    · exact UInt32.le_refl _
    · exact UInt32.le_of_lt ((List.pairwise_cons.mp h).1 r hr)

theorem mem_intervals {x : Bucket × UInt32 × ShardNumber} (hx : x ∈ t.intervals space) :
    ∃ r ∈ t, r.start = x.1 := by
  obtain ⟨i, hi⟩ := List.mem_iff_getElem?.mp hx
  rw [getElem?_intervals] at hi
  obtain ⟨r, hr, rfl⟩ := Option.map_eq_some_iff.mp hi
  exact ⟨r, List.mem_of_getElem? hr, rfl⟩

theorem intervals_pairwise (h : t.Ascending) : (t.intervals space).Pairwise (·.2.1 ≤ ·.1) := by
  induction t with
  | nil => exact .nil
  | cons r rest ih =>
    have hrest := (List.pairwise_cons.mp h).2
    rw [intervals, List.pairwise_cons]
    refine ⟨?_, ih hrest⟩
    intro x hx
    obtain ⟨q, hq, hqx⟩ := mem_intervals hx
    exact hqx ▸ nextStart_le hrest hq

theorem mem_ownedBy {s : ShardNumber} {p : Bucket × UInt32} :
    p ∈ t.ownedBy space s ↔
      ∃ i r, t[i]? = some r ∧ r.shard = s ∧ p = (r.start, t.stop space i) := by
  simp only [ownedBy, List.mem_map, List.mem_filter, decide_eq_true_eq]
  constructor
  · rintro ⟨x, ⟨hx, hs⟩, rfl⟩
    obtain ⟨i, hi⟩ := List.mem_iff_getElem?.mp hx
    rw [getElem?_intervals] at hi
    obtain ⟨r, hr, rfl⟩ := Option.map_eq_some_iff.mp hi
    exact ⟨i, r, hr, hs, rfl⟩
  · rintro ⟨i, r, hr, hs, rfl⟩
    refine ⟨(r.start, t.stop space i, r.shard), ⟨?_, hs⟩, rfl⟩
    apply List.mem_of_getElem? (i := i)
    rw [getElem?_intervals, hr, Option.map_some]

theorem stop_le_start (h : t.Ascending) {i j : Nat} (hij : i < j) {r : BucketRange}
    (hr : t[j]? = some r) : t.stop space i ≤ r.start := by
  have hd : r ∈ t.drop (i + 1) := by
    apply List.mem_of_getElem? (i := j - (i + 1))
    rw [List.getElem?_drop, ← hr]
    congr 1
    omega
  exact nextStart_le (List.Pairwise.drop h) hd

theorem Covers.start_lt_stop (h : t.Covers space) {i : Nat} {r : BucketRange}
    (hr : t[i]? = some r) : r.start < t.stop space i := by
  have hmem := List.mem_of_getElem? hr
  apply (lt_stop_iff h.ascending (h.inSpace r hmem) i).mpr
  intro j q hij hq
  exact Ascending.start_lt h.ascending hij hr hq

theorem Covers.owner_eq_iff (h : t.Covers space) {b : Bucket} (hb : b < space) (s : ShardNumber) :
    (∃ p ∈ t.ownedBy space s, p.1 ≤ b ∧ b < p.2) ↔ t.owner b = s := by
  obtain ⟨r, hr, -, -, ho⟩ := h.exists_holder b
  rw [ho]
  constructor
  · rintro ⟨p, hp, hpb, hbp⟩
    obtain ⟨i, q, hq, hs, rfl⟩ := mem_ownedBy.mp hp
    obtain rfl := (h.holds_iff hb i).mp ⟨q, hq, hpb, hbp⟩
    rw [hr] at hq
    exact Option.some.inj hq ▸ hs
  · intro hs
    obtain ⟨q, hq, hqb, hbq⟩ := (h.holds_iff hb _).mpr rfl
    rw [hr] at hq
    obtain rfl := Option.some.inj hq
    exact ⟨_, mem_ownedBy.mpr ⟨_, r, hr, hs, rfl⟩, hqb, hbq⟩

theorem Covers.partitions (h : t.Covers space) : Partitions space (t.ownedBy space) where
  nonempty := by
    intro s p hp
    obtain ⟨i, r, hr, -, rfl⟩ := mem_ownedBy.mp hp
    exact h.start_lt_stop hr
  ordered := by
    intro s
    rw [ownedBy, List.pairwise_map]
    exact (intervals_pairwise h.ascending).filter _
  apart := by
    intro s s' hne p hp q hq
    obtain ⟨i, r, hr, rfl, rfl⟩ := mem_ownedBy.mp hp
    obtain ⟨j, r', hr', rfl, rfl⟩ := mem_ownedBy.mp hq
    rcases Nat.lt_trichotomy i j with hij | rfl | hij
    · exact .inl (stop_le_start h.ascending hij hr')
    · rw [hr] at hr'
      exact absurd (Option.some.inj hr' ▸ rfl) hne
    · exact .inr (stop_le_start h.ascending hij hr)
  covered := by
    intro b
    constructor
    · intro hb
      exact ⟨_, (h.owner_eq_iff hb _).mpr rfl⟩
    · rintro ⟨s, p, hp, -, hbp⟩
      obtain ⟨i, r, -, -, rfl⟩ := mem_ownedBy.mp hp
      exact UInt32.lt_of_lt_of_le hbp (h.stop_le i)

end RangeTable

namespace Layout

theorem tally_checkMove {l : Layout} (h : l.ranges.Covers l.space) (b : Bucket) (m : Move) :
    (l.checkMove b m).tally = .zero := by
  have hl : (l.ranges.locate b).tally = .zero := by rw [h.locate_eq, Metered.tally_pure]
  rw [checkMove]
  simp only [apply_ite Metered.tally, Metered.tally_pure, Metered.tally_bind, hl, Tally.zero_add,
    ite_self]

theorem tally_checkMoves {l : Layout} (h : l.ranges.Covers l.space) (es : List (Bucket × Move)) :
    (l.checkMoves es).tally = .zero := by
  induction es with
  | nil => rfl
  | cons e rest ih =>
    rw [checkMoves, Metered.tally_bind, tally_checkMove h, Tally.zero_add]
    cases (l.checkMove e.1 e.2).value with
    | none => exact ih
    | some violation => rfl

theorem tally_check (l : Layout) : l.check.tally = .zero := by
  rw [check]
  split
  · cases hv : l.ranges.violation? l.space with
    | some violation => rfl
    | none => exact tally_checkMoves ((RangeTable.violation?_eq_none_iff ..).mp hv) _
  · rfl

end Layout

namespace Topology

theorem hasBuckets_iff (t : Topology) (s : ShardNumber) : t.hasBuckets s ↔ t.ownedBy s ≠ [] := by
  simp only [hasBuckets, List.any_eq_true, decide_eq_true_eq]
  constructor
  · rintro ⟨r, hr, hs⟩
    obtain ⟨i, hi⟩ := List.mem_iff_getElem?.mp hr
    exact List.ne_nil_of_mem (RangeTable.mem_ownedBy.mpr ⟨i, r, hi, hs, rfl⟩)
  · intro hne
    obtain ⟨p, hp⟩ := List.exists_mem_of_ne_nil _ hne
    obtain ⟨i, r, hr, hs, -⟩ := RangeTable.mem_ownedBy.mp hp
    exact ⟨r, List.mem_of_getElem? hr, hs⟩

theorem ownership_views_agree (t : Topology) :
    (∀ b < t.space, t.ranges.OnlyHolder t.space b (t.ranges.index b)) ∧
      (∀ b < t.space, ∀ s, (∃ p ∈ t.ownedBy s, p.1 ≤ b ∧ b < p.2) ↔ t.owner b = s) ∧
      Partitions t.space t.ownedBy ∧
      (∀ s, t.hasBuckets s ↔ t.ownedBy s ≠ []) ∧
      (∀ b, (t.ranges.locate b).tally = .zero) ∧
      (∀ l : Layout, l.check.tally = .zero) := by
  have h := t.wellFormed.covers
  refine ⟨fun b hb => h.onlyHolder hb, fun b hb s => h.owner_eq_iff hb s, h.partitions,
    t.hasBuckets_iff, ?_, Layout.tally_check⟩
  intro b
  rw [h.locate_eq, Metered.tally_pure]

end Topology

end ShardRouting
