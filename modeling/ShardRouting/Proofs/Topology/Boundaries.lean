import Mathlib.Order.WellFounded
import ShardRouting.Proofs.RangeTable.Boundaries
import ShardRouting.Proofs.Topology.Derivation

namespace ShardRouting

namespace Topology

structure FirstTaken (t : Topology) (ranges : RangeTable) (c : Bucket) (m : Move) : Prop where
  recorded : t.move? c = some m
  copying : m.isMoving
  taken : ranges.owner c ≠ m.source
  lowest : ∀ c' m', t.move? c' = some m' → m'.isMoving → c' < c → ranges.owner c' = m'.source

variable {t t' : Topology} {ranges : RangeTable} {b c : Bucket} {m : Move} {s : ShardNumber}

theorem moveViolation?_withRanges (h : t.move? c = some m) (ranges : RangeTable) :
    ({ t.toLayout with ranges } : Layout).moveViolation? c m =
      if m.isMoving ∧ ranges.owner c ≠ m.source then
        some (.sourceMismatch c m.source (ranges.owner c))
      else none := by
  have ha := admits_of_move? h
  rw [Layout.moveViolation?_eq, if_neg (UInt32.not_le.mpr ha.inSpace), if_neg ha.apart,
    if_neg (not_not_intro ha.source_mem), if_neg (not_not_intro ha.destination_mem)]
  rfl

theorem violation?_withRanges (hc : ranges.Covers t.space) (e : TopologyError) :
    ({ t.toLayout with ranges } : Layout).violation? = some e ↔
      ∃ c m, t.FirstTaken ranges c m ∧ e = .sourceMismatch c m.source (ranges.owner c) := by
  have hmem : ∀ {c m}, (c, m) ∈ t.moves.entries ↔ t.move? c = some m :=
    OrderedMap.get?_eq_some_iff.symm
  rw [Layout.violation?_eq, if_pos t.wellFormed.powerOfTwo,
    (RangeTable.violation?_eq_none_iff _ _).mpr hc, Option.none_or,
    OrderedMap.findSome?_entries_eq_some_iff]
  constructor
  · rintro ⟨⟨c, m⟩, hm, hviolation, hlower⟩
    have hm := hmem.mp hm
    rw [moveViolation?_withRanges hm, Option.ite_none_right_eq_some] at hviolation
    obtain ⟨⟨hcopying, htaken⟩, he⟩ := hviolation
    refine ⟨c, m, ⟨hm, hcopying, htaken, ?_⟩, (Option.some.inj he).symm⟩
    intro c' m' hm' hcopying' hlt
    have hnone := hlower (c', m') (hmem.mpr hm') hlt
    rw [moveViolation?_withRanges hm'] at hnone
    by_contra hne
    simp [hcopying', hne] at hnone
  · rintro ⟨c, m, h, rfl⟩
    refine ⟨(c, m), hmem.mpr h.recorded, ?_, ?_⟩
    · rw [moveViolation?_withRanges h.recorded, if_pos ⟨h.copying, h.taken⟩]
    · rintro ⟨c', m'⟩ hm' hlt
      have hm' := hmem.mp hm'
      rw [moveViolation?_withRanges hm', if_neg]
      rintro ⟨hcopying', hne⟩
      exact hne (h.lowest c' m' hm' hcopying' hlt)

section Split

structure FirstCopying (t : Topology) (b e c : Bucket) (m : Move) : Prop where
  recorded : t.move? c = some m
  copying : m.isMoving
  le : b ≤ c
  lt : c < e
  lowest : ∀ c' m', t.move? c' = some m' → m'.isMoving → b ≤ c' → c' < e → c ≤ c'

inductive RefusesSplit (t : Topology) (b : Bucket) (s : ShardNumber) (e : UInt32) :
    TopologyError → Prop
  | outOfSpace (h : t.space ≤ b) : RefusesSplit t b s e (.rangeOutOfSpace b t.space)
  | unknownShard (inSpace : b < t.space) (h : s ∉ t.shards) : RefusesSplit t b s e (.unknownShard s)
  | rangeExists (inSpace : b < t.space) (known : s ∈ t.shards) {r : BucketRange}
    (mem : r ∈ t.ranges) (h : r.start = b) : RefusesSplit t b s e (.rangeExists b)
  | sourceMismatch (inSpace : b < t.space) (known : s ∈ t.shards)
    (free : ∀ r ∈ t.ranges, r.start ≠ b) (foreign : s ≠ t.owner b) {c : Bucket} {m : Move}
    (h : t.FirstCopying b e c m) : RefusesSplit t b s e (.sourceMismatch c m.source s)

structure Splits (t : Topology) (b : Bucket) (s : ShardNumber) (e : UInt32) (t' : Topology) :
    Prop where
  version : t'.version.toNat = t.version.toNat + 1
  space : t'.space = t.space
  shards : t'.shards = t.shards
  moves : t'.moves = t.moves
  owner : ∀ c < t.space, t'.owner c = if b ≤ c ∧ c < e then s else t.owner c
  sublist : t.ranges.Sublist t'.ranges
  length : t'.ranges.length = t.ranges.length + 1
  boundary : ⟨b, s⟩ ∈ t'.ranges

theorem taken_split_iff (hb : b < t.space) (hfree : ∀ r ∈ t.ranges, r.start ≠ b)
    (hm : t.move? c = some m) (hcopying : m.isMoving) :
    (t.ranges.split b s).owner c ≠ m.source ↔
      s ≠ t.owner b ∧ b ≤ c ∧ c < t.ranges.stop t.space (t.ranges.index b) := by
  have hcovers := t.wellFormed.covers
  have hsource : t.owner c = m.source := (admits_of_move? hm).owned hcopying
  rw [hcovers.owner_split hb hfree s (admits_of_move? hm).inSpace]
  split
  · next hin =>
    have howner : t.owner c = t.owner b := hcovers.owner_eq_of_lt_stop hin.1 hin.2
    rw [← hsource, howner]
    exact (and_iff_left hin).symm
  · next hout => exact iff_of_false (not_not_intro hsource) fun h => hout h.2

theorem firstTaken_split_iff (hb : b < t.space) (hfree : ∀ r ∈ t.ranges, r.start ≠ b) :
    t.FirstTaken (t.ranges.split b s) c m ↔
      s ≠ t.owner b ∧ t.FirstCopying b (t.ranges.stop t.space (t.ranges.index b)) c m := by
  constructor
  · intro h
    obtain ⟨hforeign, hle, hlt⟩ := (taken_split_iff hb hfree h.recorded h.copying).mp h.taken
    refine ⟨hforeign, h.recorded, h.copying, hle, hlt, ?_⟩
    intro c' m' hm' hcopying' hle' hlt'
    by_contra hlower
    have htaken' := (taken_split_iff hb hfree hm' hcopying').mpr ⟨hforeign, hle', hlt'⟩
    exact htaken' (h.lowest c' m' hm' hcopying' (UInt32.not_le.mp hlower))
  · rintro ⟨hforeign, h⟩
    have htaken := (taken_split_iff hb hfree h.recorded h.copying).mpr ⟨hforeign, h.le, h.lt⟩
    refine ⟨h.recorded, h.copying, htaken, ?_⟩
    intro c' m' hm' hcopying' hlt
    by_contra htaken'
    obtain ⟨-, hle', hlt'⟩ := (taken_split_iff hb hfree hm' hcopying').mp htaken'
    exact UInt32.not_lt.mpr (h.lowest c' m' hm' hcopying' hle' hlt') hlt

theorem violation?_split (hb : b < t.space) (hfree : ∀ r ∈ t.ranges, r.start ≠ b)
    (x : TopologyError) :
    ({ t.toLayout with ranges := t.ranges.split b s } : Layout).violation? = some x ↔
      ∃ c m, (s ≠ t.owner b ∧ t.FirstCopying b (t.ranges.stop t.space (t.ranges.index b)) c m) ∧
        x = .sourceMismatch c m.source s := by
  have hcovers := t.wellFormed.covers
  rw [violation?_withRanges (hcovers.split hb hfree s)]
  simp only [firstTaken_split_iff hb hfree]
  refine exists_congr fun c => exists_congr fun m => and_congr_right fun ⟨_, h⟩ => ?_
  rw [hcovers.owner_split hb hfree s (admits_of_move? h.recorded).inSpace, if_pos ⟨h.le, h.lt⟩]

theorem splitRange_eq_error {x : TopologyError} (h : t.splitRange b s = .error x) (e : UInt32) :
    t.RefusesSplit b s e x := by
  rw [splitRange] at h
  split at h
  · next hb => cases h; exact .outOfSpace hb
  next hb =>
  have inSpace := UInt32.not_le.mp hb
  split at h
  · next hs => cases h; exact .unknownShard inSpace hs
  next hs =>
  split at h
  · next hr =>
    obtain ⟨r, hr, hstart⟩ := List.any_eq_true.mp hr
    cases h
    exact .rangeExists inSpace (not_not.mp hs) hr (of_decide_eq_true hstart)
  · cases h

theorem refusesSplit_iff (t : Topology) (b : Bucket) (s : ShardNumber) (x : TopologyError) :
    t.RefusesSplit b s (t.ranges.stop t.space (t.ranges.index b)) x ↔
      t.splitRange b s = .error x ∨ ∃ l, t.splitRange b s = .ok l ∧ l.violation? = some x := by
  constructor
  · intro h
    cases h with
    | outOfSpace h => exact .inl (if_pos h)
    | unknownShard inSpace h =>
      left
      rw [splitRange, if_neg (UInt32.not_le.mpr inSpace), if_pos h]
    | rangeExists inSpace known mem h =>
      have hany : t.ranges.any (·.start = b) := List.any_eq_true.mpr ⟨_, mem, decide_eq_true h⟩
      left
      rw [splitRange, if_neg (UInt32.not_le.mpr inSpace), if_neg (not_not_intro known), if_pos hany]
    | sourceMismatch inSpace known free foreign h =>
      right
      refine ⟨_, splitRange_eq_ok.mpr ⟨inSpace, known, free, rfl⟩, ?_⟩
      exact (violation?_split inSpace free _).mpr ⟨_, _, ⟨foreign, h⟩, rfl⟩
  · rintro (h | ⟨l, hl, hviolation⟩)
    · exact splitRange_eq_error h _
    · obtain ⟨inSpace, known, free, rfl⟩ := splitRange_eq_ok.mp hl
      obtain ⟨c, m, ⟨foreign, h⟩, rfl⟩ := (violation?_split inSpace free x).mp hviolation
      exact .sourceMismatch inSpace known free foreign h

theorem splits_of_splitRange {l : Layout} (hl : t.splitRange b s = .ok l)
    (hversion : t'.version.toNat = t.version.toNat + 1)
    (ht : t'.toLayout = { l with version := t'.version }) :
    t.Splits b s (t.ranges.stop t.space (t.ranges.index b)) t' := by
  obtain ⟨hb, -, hfree, rfl⟩ := splitRange_eq_ok.mp hl
  have hranges : t'.ranges = t.ranges.split b s := congrArg Layout.ranges ht
  constructor
  case version => exact hversion
  case space => rw [ht]
  case shards => rw [ht]
  case moves => rw [ht]
  case owner =>
    intro c hc
    rw [Layout.owner, hranges]
    exact t.wellFormed.covers.owner_split hb hfree s hc
  case sublist =>
    rw [hranges]
    exact t.ranges.split_sublist b s
  case length =>
    rw [hranges]
    exact t.ranges.length_split b s
  case boundary =>
    rw [hranges]
    exact RangeTable.mem_split.mpr (.inl rfl)

structure AllowsSplit (t : Topology) (b : Bucket) (s : ShardNumber) (e : UInt32) : Prop where
  inSpace : b < t.space
  known : s ∈ t.shards
  free : ∀ r ∈ t.ranges, r.start ≠ b
  kept : s ≠ t.owner b → ∀ c m, t.move? c = some m → m.isMoving → b ≤ c → e ≤ c

theorem exists_firstCopying {e : UInt32} (hm : t.move? c = some m) (hcopying : m.isMoving)
    (hle : b ≤ c) (hlt : c < e) : ∃ c m, t.FirstCopying b e c m := by
  obtain ⟨c, ⟨⟨m, hm, hcopying⟩, hle, hlt⟩, hmin⟩ :=
    (measure UInt32.toNat).wf.has_min
      {c | (∃ m, t.move? c = some m ∧ m.isMoving) ∧ b ≤ c ∧ c < e}
      ⟨c, ⟨m, hm, hcopying⟩, hle, hlt⟩
  refine ⟨c, m, hm, hcopying, hle, hlt, ?_⟩
  intro c' m' hm' hcopying' hle' hlt'
  exact UInt32.not_lt.mp (hmin c' ⟨⟨m', hm', hcopying'⟩, hle', hlt'⟩)

theorem allowsSplit_iff (t : Topology) (b : Bucket) (s : ShardNumber) (e : UInt32) :
    t.AllowsSplit b s e ↔ ∀ x, ¬t.RefusesSplit b s e x := by
  constructor
  · intro h x hx
    cases hx with
    | outOfSpace hb => exact UInt32.not_le.mpr h.inSpace hb
    | unknownShard _ hs => exact hs h.known
    | rangeExists _ _ mem hr => exact h.free _ mem hr
    | sourceMismatch _ _ _ foreign hc =>
      exact UInt32.not_lt.mpr (h.kept foreign _ _ hc.recorded hc.copying hc.le) hc.lt
  · intro h
    have inSpace : b < t.space := by
      by_contra hb
      exact h _ (.outOfSpace (UInt32.not_lt.mp hb))
    have known : s ∈ t.shards := by
      by_contra hs
      exact h _ (.unknownShard inSpace hs)
    have free : ∀ r ∈ t.ranges, r.start ≠ b := fun r hr hstart =>
      h _ (.rangeExists inSpace known hr hstart)
    refine ⟨inSpace, known, free, ?_⟩
    intro foreign c m hm hcopying hle
    by_contra hlt
    obtain ⟨c, m, hfirst⟩ := exists_firstCopying hm hcopying hle (UInt32.not_le.mp hlt)
    exact h _ (.sourceMismatch inSpace known free foreign hfirst)

theorem outcome_split (hv : t.version.toNat + 1 < UInt64.size) (b : Bucket) (s : ShardNumber) :
    t.Outcome (.splitRange b s) (t.RefusesSplit b s (t.ranges.stop t.space (t.ranges.index b)))
      (t.Splits b s (t.ranges.stop t.space (t.ranges.index b))) := by
  apply outcome_of_change hv
  · exact t.refusesSplit_iff b s
  · intro l t' hl hversion ht
    exact splits_of_splitRange hl hversion ht

/-- A split is refused for its start, its shard or a bucket that copies under another shard, and
otherwise hands over exactly the buckets from its start up to the next boundary. -/
theorem split_exact (t : Topology) (b : Bucket) (s : ShardNumber)
    (hv : t.version.toNat + 1 < UInt64.size) :
    ∃ e, t.ranges.EndsAt t.space b e ∧
      t.Outcome (.splitRange b s) (t.RefusesSplit b s e) (t.Splits b s e) ∧
      ((∃ t', t.derive (.splitRange b s) = .ok t') ↔ t.AllowsSplit b s e) := by
  refine ⟨_, t.wellFormed.covers.endsAt_stop b, outcome_split hv b s, ?_⟩
  rw [allowsSplit_iff]
  exact (outcome_split hv b s).exists_derive_iff

def draining : Topology where
  toLayout := ⟨3, 16, .ofList [0, 1, 2], [⟨0, 0⟩, ⟨8, 1⟩],
    .ofList [(2, ⟨0, 1, .moving⟩), (5, ⟨0, 2, .moving⟩), (9, ⟨1, 0, .done⟩)]⟩
  wellFormed := (Layout.wellFormed_iff _ (by decide)).mpr (by decide)

theorem split_exact_draining :
    draining.version.toNat + 1 < UInt64.size ∧
      ∃ e, draining.ranges.EndsAt draining.space 4 e ∧
        draining.Outcome (.splitRange 4 1) (draining.RefusesSplit 4 1 e)
          (draining.Splits 4 1 e) ∧
        ((∃ t', draining.derive (.splitRange 4 1) = .ok t') ↔ draining.AllowsSplit 4 1 e) :=
  ⟨by decide, split_exact draining 4 1 (by decide)⟩

end Split

section Merge

structure Merges (t t' : Topology) : Prop where
  version : t'.version.toNat = t.version.toNat + 1
  space : t'.space = t.space
  shards : t'.shards = t.shards
  moves : t'.moves = t.moves
  owner : ∀ b, t'.owner b = t.owner b
  sublist : t'.ranges.Sublist t.ranges
  joined : t'.ranges.Joined
  idempotent : t.version.toNat + 2 < UInt64.size →
    ∃ t'', t'.derive .mergeRanges = .ok t'' ∧
      t''.version.toNat = t.version.toNat + 2 ∧
      t''.toLayout = { t'.toLayout with version := t''.version }
  unique : ∀ u u' : Topology, u.space = t.space → (∀ b < t.space, u.owner b = t.owner b) →
    u.derive .mergeRanges = .ok u' → u'.ranges = t'.ranges
  minimal : ∀ ranges : RangeTable, ranges.Covers t.space →
    (∀ b < t.space, ranges.owner b = t.owner b) →
      t'.ranges.Sublist ranges ∧ t'.ranges.length ≤ ranges.length

theorem violation?_mergeRanges (t : Topology) : t.mergeRanges.violation? = none := by
  have hcovers := t.wellFormed.covers
  apply Option.eq_none_iff_forall_ne_some.mpr
  intro e he
  obtain ⟨c, m, h, -⟩ := (violation?_withRanges hcovers.merge e).mp he
  apply h.taken
  rw [hcovers.owner_merge]
  exact (admits_of_move? h.recorded).owned h.copying

theorem exists_merge (hv : t.version.toNat + 1 < UInt64.size) :
    ∃ t', t.derive .mergeRanges = .ok t' ∧ t'.version.toNat = t.version.toNat + 1 ∧
      t'.toLayout = { t.mergeRanges with version := t'.version } :=
  exists_derive rfl hv t.violation?_mergeRanges

theorem ranges_of_merge (h : t.derive .mergeRanges = .ok t') : t'.ranges = t.ranges.merge := by
  obtain ⟨l, hl, -, ht'⟩ := derive_eq_ok_iff.mp h
  cases hl
  rw [ht']
  rfl

theorem exists_merge_of_joined (hv : t.version.toNat + 1 < UInt64.size) (hj : t.ranges.Joined) :
    ∃ t', t.derive .mergeRanges = .ok t' ∧ t'.version.toNat = t.version.toNat + 1 ∧
      t'.toLayout = { t.toLayout with version := t'.version } := by
  have hsame : t.mergeRanges = t.toLayout := by
    rw [mergeRanges, t.wellFormed.covers.merge_eq_of_joined hj]
  have h := exists_merge hv
  rw [hsame] at h
  exact h

/-- Merging never fails, and its table is the least one with the owners of the buckets. -/
theorem merge_canonical (t : Topology) (hv : t.version.toNat + 1 < UInt64.size) :
    ∃ t', t.derive .mergeRanges = .ok t' ∧ t.Merges t' := by
  have hcovers := t.wellFormed.covers
  obtain ⟨t', ht', hversion, hlayout⟩ := exists_merge hv
  have hranges := ranges_of_merge ht'
  have hjoined : t'.ranges.Joined := hranges ▸ RangeTable.joined_merge t.ranges
  refine ⟨t', ht', ?_⟩
  constructor
  case version => exact hversion
  case space => rw [hlayout]; rfl
  case shards => rw [hlayout]; rfl
  case moves => rw [hlayout]; rfl
  case owner =>
    intro b
    rw [Layout.owner, hranges]
    exact hcovers.owner_merge b
  case sublist => rw [hranges]; exact RangeTable.merge_sublist t.ranges
  case joined => exact hjoined
  case idempotent =>
    intro hroom
    obtain ⟨t'', ht'', hversion', hlayout'⟩ := exists_merge_of_joined (by omega) hjoined
    exact ⟨t'', ht'', by rw [hversion', hversion], hlayout'⟩
  case unique =>
    intro u u' hspace howner hu'
    rw [ranges_of_merge hu', hranges]
    have hu := u.wellFormed.covers
    rw [hspace] at hu
    exact hu.merge_eq_merge hcovers howner
  case minimal =>
    intro ranges hc howner
    have hmerge : t'.ranges = ranges.merge := hranges.trans (hcovers.merge_eq_merge hc
      fun b hb => (howner b hb).symm)
    have hsub := hmerge ▸ RangeTable.merge_sublist ranges
    exact ⟨hsub, hsub.length_le⟩

def fragmented : Topology where
  toLayout := ⟨7, 16, .ofList [0, 1], [⟨0, 0⟩, ⟨2, 0⟩, ⟨4, 1⟩, ⟨6, 1⟩, ⟨9, 0⟩],
    .ofList [(3, ⟨0, 1, .moving⟩)]⟩
  wellFormed := (Layout.wellFormed_iff _ (by decide)).mpr (by decide)

theorem merge_canonical_fragmented :
    fragmented.version.toNat + 1 < UInt64.size ∧
      ∃ t', fragmented.derive .mergeRanges = .ok t' ∧ fragmented.Merges t' :=
  ⟨by decide, merge_canonical fragmented (by decide)⟩

end Merge

end Topology

end ShardRouting
