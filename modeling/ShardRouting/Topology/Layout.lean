import ShardRouting.Ordered.Map
import ShardRouting.Topology.Error
import ShardRouting.Topology.RangeTable

/-!
Shard layouts and the rules they have to meet. `Layout.violation?` names the first rule that fails;
a layout whose shard set holds every range owner is well formed exactly when none fails
(`Layout.wellFormed_iff`). A `Topology` is a well-formed layout.
-/

namespace ShardRouting

namespace RangeTable

def firstDescent? : RangeTable → Option (Bucket × Bucket)
  | [] => none
  | [_] => none
  | a :: b :: rest =>
    if b.start ≤ a.start then some (a.start, b.start) else firstDescent? (b :: rest)

def owners (t : RangeTable) : List ShardNumber := t.map (·.shard)

structure Covers (space : UInt32) (t : RangeTable) : Prop where
  first : t.head?.map (·.start) = some 0
  ascending : t.Pairwise (·.start < ·.start)
  inSpace : ∀ r ∈ t, r.start < space

def violation? (space : UInt32) (t : RangeTable) : Option TopologyError :=
  match t.head?, t.getLast? with
  | some first, some last =>
    if first.start ≠ 0 then some (.firstRangeNotZero first.start)
    else
      match t.firstDescent? with
      | some (previous, next) => some (.rangesNotAscending previous next)
      | none => if space ≤ last.start then some (.rangeOutOfSpace last.start space) else none
  | _, _ => some .noRanges

theorem firstDescent?_eq_none_iff (t : RangeTable) :
    t.firstDescent? = none ↔ t.Pairwise (·.start < ·.start) := by
  induction t with
  | nil => simp [firstDescent?]
  | cons a rest ih =>
    cases rest with
    | nil => simp [firstDescent?]
    | cons b rest =>
      rw [firstDescent?, List.pairwise_cons]
      split
      · next h =>
        simp only [reduceCtorEq, false_iff, not_and]
        intro hab
        exact absurd (hab b List.mem_cons_self) (UInt32.not_lt.mpr h)
      · next h =>
        have hlt : a.start < b.start := UInt32.not_le.mp h
        rw [ih]
        refine ⟨fun hp => ⟨fun r hr => ?_, hp⟩, And.right⟩
        rcases List.mem_cons.mp hr with rfl | hr
        · exact hlt
        · exact UInt32.lt_trans hlt ((List.pairwise_cons.mp hp).1 r hr)

theorem start_le_getLast {t : RangeTable} (h : t.Pairwise (·.start < ·.start)) {last : BucketRange}
    (hl : t.getLast? = some last) {r : BucketRange} (hr : r ∈ t) : r.start ≤ last.start := by
  obtain ⟨init, rfl⟩ := List.getLast?_eq_some_iff.mp hl
  rcases List.mem_append.mp hr with hr | hr
  · exact UInt32.le_of_lt ((List.pairwise_append.mp h).2.2 r hr last (List.mem_singleton.mpr rfl))
  · rw [List.mem_singleton.mp hr]
    exact UInt32.le_refl _

theorem violation?_eq_none_iff (space : UInt32) (t : RangeTable) :
    t.violation? space = none ↔ t.Covers space := by
  unfold violation?
  split
  · next first last hf hl =>
    constructor
    · intro h
      split at h
      · exact absurd h (by simp)
      next hz =>
      split at h
      · exact absurd h (by simp)
      next hd =>
      split at h
      · exact absurd h (by simp)
      next hs =>
      have hasc := (firstDescent?_eq_none_iff t).mp hd
      exact ⟨by simpa [hf] using hz, hasc, fun r hr =>
        Std.lt_of_le_of_lt (start_le_getLast hasc hl hr) (UInt32.not_le.mp hs)⟩
    · intro h
      have hz : first.start = 0 := by simpa [hf] using h.first
      have hd := (firstDescent?_eq_none_iff t).mpr h.ascending
      have hs := h.inSpace last (List.mem_of_getLast? hl)
      simp [hz, hd, UInt32.not_le.mpr hs]
  · next h =>
    cases t with
    | nil => exact ⟨fun h => absurd h (by simp), fun h => absurd h.first (by simp)⟩
    | cons r rest =>
      have hlast := List.getLast?_eq_some_getLast (List.cons_ne_nil r rest)
      exact absurd hlast (h r _ rfl)

end RangeTable

@[ext]
structure Layout where
  version : UInt64
  space : UInt32
  shards : OrderedSet ShardNumber
  ranges : RangeTable
  moves : OrderedMap Bucket Move
deriving DecidableEq

namespace Layout

def owner (l : Layout) (b : Bucket) : ShardNumber := l.ranges.owner b

structure Admits (l : Layout) (b : Bucket) (m : Move) : Prop where
  inSpace : b < l.space
  apart : m.source ≠ m.destination
  source_mem : m.source ∈ l.shards
  destination_mem : m.destination ∈ l.shards
  owned : m.isMoving → l.owner b = m.source

def checkMove (l : Layout) (b : Bucket) (m : Move) : Metered (Option TopologyError) :=
  if l.space ≤ b then pure (some (.migrationOutOfSpace b l.space))
  else if m.source = m.destination then pure (some (.selfMigration b m.source))
  else if m.source ∉ l.shards then pure (some (.unknownShard m.source))
  else if m.destination ∉ l.shards then pure (some (.unknownShard m.destination))
  else do
    let owner := l.ranges.ownerAt (← l.ranges.locate b)
    return if m.isMoving ∧ owner ≠ m.source then some (.sourceMismatch b m.source owner) else none

def moveViolation? (l : Layout) (b : Bucket) (m : Move) : Option TopologyError :=
  (l.checkMove b m).value

theorem moveViolation?_eq (l : Layout) (b : Bucket) (m : Move) :
    l.moveViolation? b m =
      if l.space ≤ b then some (.migrationOutOfSpace b l.space)
      else if m.source = m.destination then some (.selfMigration b m.source)
      else if m.source ∉ l.shards then some (.unknownShard m.source)
      else if m.destination ∉ l.shards then some (.unknownShard m.destination)
      else if m.isMoving ∧ l.owner b ≠ m.source then some (.sourceMismatch b m.source (l.owner b))
      else none := by
  rw [moveViolation?, checkMove]
  simp only [apply_ite Metered.value, Metered.value_pure, Metered.value_bind]
  rfl

theorem moveViolation?_eq_none_iff (l : Layout) (b : Bucket) (m : Move) :
    l.moveViolation? b m = none ↔ l.Admits b m := by
  rw [moveViolation?_eq]
  constructor
  · intro h
    by_cases h₁ : l.space ≤ b
    · simp [h₁] at h
    by_cases h₂ : m.source = m.destination
    · simp [h₁, h₂] at h
    by_cases h₃ : m.source ∈ l.shards
    · by_cases h₄ : m.destination ∈ l.shards
      · refine ⟨UInt32.not_le.mp h₁, h₂, h₃, h₄, fun hm => Classical.byContradiction fun ho => ?_⟩
        simp [h₁, h₂, h₃, h₄, hm, ho] at h
      · simp [h₁, h₂, h₃, h₄] at h
    · simp [h₁, h₂, h₃] at h
  · intro h
    rw [if_neg (UInt32.not_le.mpr h.inSpace), if_neg h.apart, if_neg (not_not_intro h.source_mem),
      if_neg (not_not_intro h.destination_mem), if_neg]
    rintro ⟨hm, ho⟩
    exact ho (h.owned hm)

structure WellFormed (l : Layout) : Prop where
  powerOfTwo : isPowerOfTwo l.space
  covers : l.ranges.Covers l.space
  owners_mem : ∀ r ∈ l.ranges, r.shard ∈ l.shards
  admits : ∀ e ∈ l.moves.entries, l.Admits e.1 e.2

def checkMoves (l : Layout) : List (Bucket × Move) → Metered (Option TopologyError)
  | [] => pure none
  | e :: rest => do
    match ← l.checkMove e.1 e.2 with
    | some violation => return some violation
    | none => l.checkMoves rest

def check (l : Layout) : Metered (Option TopologyError) :=
  if isPowerOfTwo l.space then
    match l.ranges.violation? l.space with
    | some violation => pure (some violation)
    | none => l.checkMoves l.moves.entries
  else pure (some (.spaceNotPowerOfTwo l.space))

def violation? (l : Layout) : Option TopologyError := l.check.value

theorem value_checkMoves (l : Layout) (es : List (Bucket × Move)) :
    (l.checkMoves es).value = es.findSome? fun e => l.moveViolation? e.1 e.2 := by
  induction es with
  | nil => rfl
  | cons e rest ih =>
    rw [checkMoves, List.findSome?_cons, Metered.value_bind, ← ih, moveViolation?]
    cases (l.checkMove e.1 e.2).value <;> rfl

theorem violation?_eq (l : Layout) :
    l.violation? =
      if isPowerOfTwo l.space then
        (l.ranges.violation? l.space).or
          (l.moves.entries.findSome? fun e => l.moveViolation? e.1 e.2)
      else some (.spaceNotPowerOfTwo l.space) := by
  rw [violation?, check]
  split
  · cases l.ranges.violation? l.space with
    | some violation => rfl
    | none => rw [Option.none_or, ← value_checkMoves]
  · rfl

theorem wellFormed_iff (l : Layout) (h : ∀ r ∈ l.ranges, r.shard ∈ l.shards) :
    l.WellFormed ↔ l.violation? = none := by
  rw [violation?_eq]
  constructor
  · intro hw
    rw [if_pos hw.powerOfTwo, (RangeTable.violation?_eq_none_iff ..).mpr hw.covers, Option.none_or,
      List.findSome?_eq_none_iff]
    exact fun e he => (moveViolation?_eq_none_iff ..).mpr (hw.admits e he)
  · intro hv
    split at hv
    · next hp =>
      rw [Option.or_eq_none_iff] at hv
      exact ⟨hp, (RangeTable.violation?_eq_none_iff ..).mp hv.1, h, fun e he =>
        (moveViolation?_eq_none_iff ..).mp (List.findSome?_eq_none_iff.mp hv.2 e he)⟩
    · exact absurd hv (by simp)

def withOwners (l : Layout) : Layout := { l with shards := l.shards.insertAll l.ranges.owners }

theorem owners_mem_withOwners (l : Layout) :
    ∀ r ∈ l.withOwners.ranges, r.shard ∈ l.withOwners.shards := fun _ hr =>
  OrderedSet.mem_insertAll.mpr (.inl (List.mem_map_of_mem hr))

end Layout

structure Topology extends Layout where
  wellFormed : toLayout.WellFormed
deriving DecidableEq

namespace Topology

def ofLayout (l : Layout) : Except TopologyError Topology :=
  match h : l.withOwners.violation? with
  | some e => .error e
  | none => .ok ⟨l.withOwners, (l.withOwners.wellFormed_iff l.owners_mem_withOwners).mpr h⟩

def create (version : UInt64) (space : UInt32) (shards : List ShardNumber) (ranges : RangeTable)
    (migrations : List Migration) : Except TopologyError Topology :=
  ofLayout ⟨version, space, .ofList shards, ranges,
    .ofList (migrations.map fun m => (m.bucket, m.toMove))⟩

def numbersBelow (n : UInt32) : List UInt32 := (List.range n.toNat).map UInt32.ofNat

/-- Spreads shards over the bucket space in ranges of one width, the last of which takes what is
left over. Shards beyond the size of the space own no bucket. -/
def uniform (version : UInt64) (space count : UInt32) : Except TopologyError Topology :=
  if count = 0 then .error .noRanges
  else
    let width := max (space / count) 1
    create version space (numbersBelow count)
      ((numbersBelow (min count space)).map fun s => ⟨s * width, s⟩) []

variable (t : Topology)

def shardCount : Nat := t.shards.size

def hasBuckets (s : ShardNumber) : Bool := t.ranges.any (·.shard = s)

def ownedBy (s : ShardNumber) : List (Bucket × UInt32) := t.ranges.ownedBy t.space s

def move? (b : Bucket) : Option Move := t.moves.get? b

def migration? (b : Bucket) : Option Migration := (t.move? b).map fun m => ⟨m, b⟩

def migrations : List Migration := t.moves.entries.map fun e => ⟨e.2, e.1⟩

def readShard (b : Bucket) : ShardNumber :=
  match t.move? b with
  | some m => m.readShard
  | none => t.owner b

end Topology

end ShardRouting
