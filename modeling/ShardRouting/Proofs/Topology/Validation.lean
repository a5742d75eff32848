import ShardRouting.Proofs.RangeTable.Violations
import ShardRouting.Proofs.Topology.Derivation
import ShardRouting.Topology.Document

namespace ShardRouting

namespace TopologyDocument

variable (d : TopologyDocument)

def Knows (s : ShardNumber) : Prop := s ∈ d.shards ∨ ∃ r ∈ d.ranges, r.shard = s

def Keeps (m : Migration) : Prop :=
  ∃ before after, d.migrations = before ++ m :: after ∧ ∀ n ∈ after, n.bucket ≠ m.bucket

structure Admits (m : Migration) : Prop where
  inSpace : m.bucket < d.space
  apart : m.source ≠ m.destination
  source_known : d.Knows m.source
  destination_known : d.Knows m.destination
  owned : m.status = .moving →
    ∃ r, RangeTable.holder? d.ranges m.bucket = some r ∧ r.shard = m.source

structure WellFormed : Prop where
  powerOfTwo : d.space.toNat.isPowerOfTwo
  covers : RangeTable.Covers d.space d.ranges
  admits : ∀ m, d.Keeps m → d.Admits m

inductive Refuses (m : Migration) : TopologyError → Prop
  | outOfSpace (h : d.space ≤ m.bucket) : Refuses m (.migrationOutOfSpace m.bucket d.space)
  | selfMove (inSpace : m.bucket < d.space) (h : m.source = m.destination) :
    Refuses m (.selfMigration m.bucket m.source)
  | unknownSource (inSpace : m.bucket < d.space) (apart : m.source ≠ m.destination)
    (h : ¬d.Knows m.source) : Refuses m (.unknownShard m.source)
  | unknownDestination (inSpace : m.bucket < d.space) (apart : m.source ≠ m.destination)
    (source_known : d.Knows m.source) (h : ¬d.Knows m.destination) :
    Refuses m (.unknownShard m.destination)
  | sourceMismatch (inSpace : m.bucket < d.space) (apart : m.source ≠ m.destination)
    (source_known : d.Knows m.source) (destination_known : d.Knows m.destination)
    (moving : m.status = .moving) {r : BucketRange}
    (holder : RangeTable.holder? d.ranges m.bucket = some r)
    (h : r.shard ≠ m.source) : Refuses m (.sourceMismatch m.bucket m.source r.shard)

inductive Breaks : TopologyError → Prop
  | space (h : ¬d.space.toNat.isPowerOfTwo) : Breaks (.spaceNotPowerOfTwo d.space)
  | ranges (powerOfTwo : d.space.toNat.isPowerOfTwo) {e : TopologyError}
    (h : RangeTable.Breaks d.space d.ranges e) : Breaks e
  | migration (powerOfTwo : d.space.toNat.isPowerOfTwo) (covers : RangeTable.Covers d.space d.ranges)
    {m : Migration} (kept : d.Keeps m)
    (lower : ∀ n, d.Keeps n → n.bucket < m.bucket → d.Admits n) {e : TopologyError}
    (h : d.Refuses m e) : Breaks e

structure Describes (t : Topology) : Prop where
  version : t.version = d.version
  space : t.space = d.space
  ranges : t.ranges = d.ranges
  mem_shards : ∀ s, s ∈ t.shards ↔ d.Knows s
  mem_migrations : ∀ m, m ∈ t.migrations ↔ d.Keeps m

def layout : Layout :=
  Layout.withOwners ⟨d.version, d.space, .ofList d.shards, d.ranges,
    .ofList (d.migrations.map fun m => (m.bucket, m.toMove))⟩

theorem mem_shards_layout (s : ShardNumber) : s ∈ d.layout.shards ↔ d.Knows s := by
  rw [layout, Layout.withOwners, OrderedSet.mem_insertAll, OrderedSet.mem_ofList, or_comm,
    RangeTable.owners, List.mem_map]
  rfl

theorem mem_moves_layout (m : Migration) :
    (m.bucket, m.toMove) ∈ d.layout.moves.entries ↔ d.Keeps m := by
  rw [← OrderedMap.get?_eq_some_iff, layout, Layout.withOwners, OrderedMap.get?_ofList_eq_some_iff]
  constructor
  · rintro ⟨before, after, hsplit, hlast⟩
    obtain ⟨before, rest, hd, rfl, hrest⟩ := List.map_eq_append_iff.mp hsplit
    obtain ⟨n, after, rfl, hn, rfl⟩ := List.map_eq_cons_iff.mp hrest
    have hnm : n = m := by
      cases n
      cases m
      cases hn
      rfl
    subst hnm
    exact ⟨before, after, hd, fun n hn => hlast _ (List.mem_map_of_mem hn)⟩
  · rintro ⟨before, after, hd, hlast⟩
    refine ⟨_, _, by rw [hd, List.map_append, List.map_cons], ?_⟩
    simpa using hlast

variable {d}

section Covered

variable (hc : RangeTable.Covers d.space d.ranges) (m : Migration)

include hc

theorem admits_layout_iff : d.layout.Admits m.bucket m.toMove ↔ d.Admits m := by
  obtain ⟨r, hr, ho⟩ := Option.map_eq_some_iff.mp (hc.holder?_map_shard m.bucket)
  have hknows := d.mem_shards_layout
  constructor
  · intro h
    refine ⟨h.inSpace, h.apart, (hknows _).mp h.source_mem, (hknows _).mp h.destination_mem, ?_⟩
    intro hm
    exact ⟨r, hr, ho.trans (h.owned (decide_eq_true hm))⟩
  · intro h
    refine ⟨h.inSpace, h.apart, (hknows _).mpr h.source_known, (hknows _).mpr h.destination_known, ?_⟩
    intro hm
    obtain ⟨q, hq, hs⟩ := h.owned (of_decide_eq_true hm)
    obtain rfl := Option.some.inj (hr.symm.trans hq)
    exact ho.symm.trans hs

theorem moveViolation?_layout_iff (e : TopologyError) :
    d.layout.moveViolation? m.bucket m.toMove = some e ↔ d.Refuses m e := by
  obtain ⟨r, hr, ho⟩ := Option.map_eq_some_iff.mp (hc.holder?_map_shard m.bucket)
  have howner : d.layout.owner m.bucket = r.shard := ho.symm
  have hspace : d.layout.space = d.space := rfl
  have hknows := d.mem_shards_layout
  have hmoving : m.isMoving = true ↔ m.status = .moving := decide_eq_true_iff
  rw [Layout.moveViolation?_eq, howner, hspace]
  constructor
  · intro h
    split at h
    · next hb => cases h; exact .outOfSpace hb
    next hb =>
    have inSpace := UInt32.not_le.mp hb
    split at h
    · next ha => cases h; exact .selfMove inSpace ha
    next apart =>
    split at h
    · next hs => cases h; exact .unknownSource inSpace apart ((hknows _).not.mp hs)
    next hs =>
    have source_known := (hknows _).mp (not_not.mp hs)
    split at h
    · next hd => cases h; exact .unknownDestination inSpace apart source_known ((hknows _).not.mp hd)
    next hd =>
    have destination_known := (hknows _).mp (not_not.mp hd)
    obtain ⟨⟨hm, hne⟩, he⟩ := Option.ite_none_right_eq_some.mp h
    cases he
    exact .sourceMismatch inSpace apart source_known destination_known (hmoving.mp hm) hr hne
  · intro h
    have hin := fun hlt : m.bucket < d.space => UInt32.not_le.mpr hlt
    cases h with
    | outOfSpace h => exact if_pos h
    | selfMove inSpace h => simp [hin inSpace, h]
    | unknownSource inSpace apart h => simp [hin inSpace, apart, hknows, h]
    | unknownDestination inSpace apart source_known h =>
      simp [hin inSpace, apart, hknows, source_known, h]
    | sourceMismatch inSpace apart source_known destination_known moving holder h =>
      obtain rfl := Option.some.inj (hr.symm.trans holder)
      simp [hin inSpace, apart, hknows, source_known, destination_known, hmoving, moving, h]

end Covered

theorem isPowerOfTwo_iff (d : TopologyDocument) :
    isPowerOfTwo d.layout.space = true ↔ d.space.toNat.isPowerOfTwo := decide_eq_true_iff

theorem violation?_layout_iff (d : TopologyDocument) (e : TopologyError) :
    d.layout.violation? = some e ↔ d.Breaks e := by
  have hpower := d.isPowerOfTwo_iff
  have htable := RangeTable.violation?_eq_some_iff d.space d.ranges e
  have hcovers := RangeTable.violation?_eq_none_iff d.space d.ranges
  rw [Layout.violation?_eq]
  constructor
  · intro h
    split at h
    · next hp =>
      have hp := hpower.mp hp
      rcases Option.or_eq_some_iff.mp h with hv | ⟨hv, hmoves⟩
      · exact .ranges hp (htable.mp hv)
      · have hc := hcovers.mp hv
        obtain ⟨⟨b, m⟩, hmem, hm, hlower⟩ := OrderedMap.findSome?_entries_eq_some_iff.mp hmoves
        refine .migration hp hc ((d.mem_moves_layout ⟨m, b⟩).mp hmem) ?_
          ((moveViolation?_layout_iff hc ⟨m, b⟩ e).mp hm)
        intro n hn hlt
        have hnone := hlower (n.bucket, n.toMove) ((d.mem_moves_layout n).mpr hn) hlt
        exact (admits_layout_iff hc n).mp ((Layout.moveViolation?_eq_none_iff _ _ _).mp hnone)
    · next hp =>
      cases h
      exact .space (hpower.not.mp hp)
  · intro h
    cases h with
    | space h => exact if_neg (hpower.not.mpr h)
    | ranges powerOfTwo h =>
      rw [if_pos (hpower.mpr powerOfTwo), Option.or_eq_some_iff]
      exact .inl (htable.mpr h)
    | @migration powerOfTwo covers m kept lower _ h =>
      rw [if_pos (hpower.mpr powerOfTwo), Option.or_eq_some_iff]
      refine .inr ⟨hcovers.mpr covers, OrderedMap.findSome?_entries_eq_some_iff.mpr ?_⟩
      refine ⟨(m.bucket, m.toMove), (d.mem_moves_layout m).mpr kept,
        (moveViolation?_layout_iff covers m e).mpr h, ?_⟩
      rintro ⟨b, n⟩ hmem hlt
      have hadmits := lower ⟨n, b⟩ ((d.mem_moves_layout ⟨n, b⟩).mp hmem) hlt
      exact (Layout.moveViolation?_eq_none_iff _ _ _).mpr
        ((admits_layout_iff covers ⟨n, b⟩).mpr hadmits)

theorem wellFormed_layout_iff (d : TopologyDocument) : d.layout.WellFormed ↔ d.WellFormed := by
  have hpower := d.isPowerOfTwo_iff
  constructor
  · intro h
    refine ⟨hpower.mp h.powerOfTwo, h.covers, ?_⟩
    intro m hm
    exact (admits_layout_iff h.covers m).mp (h.admits _ ((d.mem_moves_layout m).mpr hm))
  · intro h
    refine ⟨hpower.mpr h.powerOfTwo, h.covers, Layout.owners_mem_withOwners _, ?_⟩
    rintro ⟨b, m⟩ hmem
    have hkept := (d.mem_moves_layout ⟨m, b⟩).mp hmem
    exact (admits_layout_iff h.covers ⟨m, b⟩).mpr (h.admits _ hkept)

theorem describes_iff (d : TopologyDocument) (t : Topology) :
    d.Describes t ↔ t.toLayout = d.layout := by
  have hmigrations : ∀ m : Migration, m ∈ t.migrations ↔ (m.bucket, m.toMove) ∈ t.moves.entries := by
    intro m
    rw [Topology.migrations, List.mem_map]
    constructor
    · rintro ⟨e, he, rfl⟩
      exact he
    · intro he
      exact ⟨_, he, rfl⟩
  constructor
  · intro h
    have hshards : t.shards = d.layout.shards := by
      apply OrderedSet.ext_mem
      intro s
      rw [h.mem_shards, d.mem_shards_layout]
    have hmoves : t.moves = d.layout.moves := by
      apply OrderedMap.ext_get?
      intro b
      apply Option.ext
      intro m
      have hm := hmigrations ⟨m, b⟩
      rw [h.mem_migrations, ← d.mem_moves_layout] at hm
      rw [OrderedMap.get?_eq_some_iff, OrderedMap.get?_eq_some_iff]
      exact hm.symm
    exact Layout.ext h.version h.space hshards h.ranges hmoves
  · intro h
    refine ⟨by rw [h]; rfl, by rw [h]; rfl, by rw [h]; rfl, ?_, ?_⟩
    · intro s
      rw [h, d.mem_shards_layout]
    · intro m
      rw [hmigrations, h, d.mem_moves_layout]

end TopologyDocument

namespace Topology

variable {d : TopologyDocument} {t : Topology}

theorem ofDocument_eq_ok : ofDocument d = .ok t ↔ d.WellFormed ∧ d.Describes t := by
  have howners : ∀ r ∈ d.layout.ranges, r.shard ∈ d.layout.shards := Layout.owners_mem_withOwners _
  rw [← d.wellFormed_layout_iff, Layout.wellFormed_iff _ howners, d.describes_iff]
  exact ofLayout_eq_ok

theorem ofDocument_eq_error {e : TopologyError} : ofDocument d = .error e ↔ d.Breaks e := by
  rw [← d.violation?_layout_iff]
  exact ofLayout_eq_error

theorem exists_ofDocument_eq_ok (h : d.WellFormed) : ∃ t, ofDocument d = .ok t :=
  ⟨⟨d.layout, d.wellFormed_layout_iff.mpr h⟩, ofDocument_eq_ok.mpr ⟨h, (d.describes_iff _).mpr rfl⟩⟩

/-- A topology is made of the listing `d` exactly when `d` is well formed, it is the one that `d`
describes, and what is refused is named by the first rule it breaks. -/
theorem create_accepts_wellFormed (d : TopologyDocument) :
    ((∃ t, create d.version d.space d.shards d.ranges d.migrations = .ok t) ↔ d.WellFormed) ∧
    (∀ t, create d.version d.space d.shards d.ranges d.migrations = .ok t ↔
      d.WellFormed ∧ d.Describes t) ∧
    ∀ e, create d.version d.space d.shards d.ranges d.migrations = .error e ↔ d.Breaks e := by
  refine ⟨⟨?_, exists_ofDocument_eq_ok⟩, fun t => ofDocument_eq_ok, fun e => ofDocument_eq_error⟩
  rintro ⟨t, ht⟩
  exact (ofDocument_eq_ok.mp ht).1

end Topology

end ShardRouting
