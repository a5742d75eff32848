import Mathlib.Data.List.Count
import ShardRouting.Proofs.RangeTable.Intervals
import ShardRouting.Proofs.Topology.Validation

namespace ShardRouting

def exactQuotient (a b : UInt32) : Option UInt32 := if b = 0 then none else some (a / b)

def exactProduct (a b : UInt32) : Option UInt32 :=
  if a.toNat * b.toNat < UInt32.size then some (a * b) else none

namespace Topology

section Numbers

variable {n s : UInt32}

theorem mem_numbersBelow : s ∈ numbersBelow n ↔ s < n := by
  rw [numbersBelow, List.mem_map, UInt32.lt_iff_toNat_lt]
  constructor
  · rintro ⟨i, hi, rfl⟩
    have hi := List.mem_range.mp hi
    rwa [UInt32.toNat_ofNat_of_lt' (hi.trans n.toNat_lt)]
  · intro h
    exact ⟨s.toNat, List.mem_range.mpr h, UInt32.ofNat_toNat⟩

theorem pairwise_numbersBelow (n : UInt32) : (numbersBelow n).Pairwise (· < ·) := by
  rw [numbersBelow, List.pairwise_map]
  apply List.pairwise_lt_range.imp_of_mem
  intro i j _ hj hij
  have hj := (List.mem_range.mp hj).trans n.toNat_lt
  rwa [UInt32.lt_iff_toNat_lt, UInt32.toNat_ofNat_of_lt' hj, UInt32.toNat_ofNat_of_lt' (hij.trans hj)]

theorem getElem?_numbersBelow {i : Nat} (h : i < n.toNat) :
    (numbersBelow n)[i]? = some (UInt32.ofNat i) := by
  rw [numbersBelow, List.getElem?_map, List.getElem?_range h, Option.map_some]

theorem getElem?_numbersBelow_eq_none {i : Nat} (h : n.toNat ≤ i) : (numbersBelow n)[i]? = none := by
  simpa [numbersBelow] using h

theorem filter_numbersBelow (n s : UInt32) :
    (numbersBelow n).filter (· = s) = if s < n then [s] else [] := by
  have hnodup : (numbersBelow n).Nodup := (pairwise_numbersBelow n).imp UInt32.ne_of_lt
  rw [List.filter_eq, hnodup.count]
  simp only [mem_numbersBelow]
  split <;> rfl

end Numbers

def uniformWidth (space count : UInt32) : UInt32 := max (space / count) 1

def uniformOwners (space count : UInt32) : UInt32 := min count space

def uniformRanges (space count : UInt32) : RangeTable :=
  (numbersBelow (uniformOwners space count)).map fun s => ⟨s * uniformWidth space count, s⟩

def uniformStop (space count s : UInt32) : UInt32 :=
  if s + 1 = uniformOwners space count then space else (s + 1) * uniformWidth space count

def exactUniform (version : UInt64) (space count : UInt32) :
    Option (Except TopologyError Topology) :=
  if count = 0 then some (.error .noRanges)
  else do
    let width := max (← exactQuotient space count) 1
    let ranges ← (numbersBelow (min count space)).mapM fun s =>
      (exactProduct s width).map fun start => ⟨start, s⟩
    some (create version space (numbersBelow count) ranges [])

variable {space count s : UInt32}

theorem toNat_uniformWidth (space count : UInt32) :
    (uniformWidth space count).toNat = max (space.toNat / count.toNat) 1 := by
  rw [uniformWidth, UInt32.toNat_max, UInt32.toNat_div, UInt32.toNat_one]

theorem toNat_uniformOwners (space count : UInt32) :
    (uniformOwners space count).toNat = min count.toNat space.toNat := UInt32.toNat_min ..

theorem uniformWidth_pos (space count : UInt32) : 0 < (uniformWidth space count).toNat := by
  rw [toNat_uniformWidth]
  exact Nat.lt_of_lt_of_le Nat.one_pos (Nat.le_max_right ..)

theorem uniformOwners_pos (hspace : space ≠ 0) (hcount : count ≠ 0) :
    0 < uniformOwners space count := by
  rw [UInt32.lt_iff_toNat_lt, toNat_uniformOwners]
  exact Nat.lt_min.mpr ⟨UInt32.lt_iff_toNat_lt.mp (UInt32.pos_iff_ne_zero.mpr hcount),
    UInt32.lt_iff_toNat_lt.mp (UInt32.pos_iff_ne_zero.mpr hspace)⟩

theorem uniformStart_lt (h : s < uniformOwners space count) :
    s.toNat * (uniformWidth space count).toNat < space.toNat := by
  rw [UInt32.lt_iff_toNat_lt, toNat_uniformOwners, Nat.lt_min] at h
  obtain ⟨hcount, hspace⟩ := h
  rw [toNat_uniformWidth]
  rcases Nat.le_total 1 (space.toNat / count.toNat) with hw | hw
  · rw [Nat.max_eq_left hw]
    calc s.toNat * (space.toNat / count.toNat)
        < count.toNat * (space.toNat / count.toNat) := Nat.mul_lt_mul_of_pos_right hcount hw
      _ ≤ space.toNat := Nat.mul_div_le ..
  · rwa [Nat.max_eq_right hw, Nat.mul_one]

theorem toNat_uniformStart (h : s < uniformOwners space count) :
    (s * uniformWidth space count).toNat = s.toNat * (uniformWidth space count).toNat := by
  rw [UInt32.toNat_mul, Nat.mod_eq_of_lt ((uniformStart_lt h).trans space.toNat_lt)]

theorem toNat_succ_of_lt {a b : UInt32} (h : a < b) : (a + 1).toNat = a.toNat + 1 := by
  have hlt : a.toNat + 1 < 2 ^ 32 := Nat.lt_of_le_of_lt (UInt32.lt_iff_toNat_lt.mp h) b.toNat_lt
  rw [UInt32.toNat_add, UInt32.toNat_one, Nat.mod_eq_of_lt hlt]

theorem succ_lt_of_ne (h : s < uniformOwners space count) (hne : s + 1 ≠ uniformOwners space count) :
    s + 1 < uniformOwners space count := by
  apply UInt32.lt_of_le_of_ne _ hne
  rw [UInt32.le_iff_toNat_le, toNat_succ_of_lt h]
  exact UInt32.lt_iff_toNat_lt.mp h

theorem mapM_eq_some_map {α β : Type} {f : α → Option β} {g : α → β} {l : List α}
    (h : ∀ a ∈ l, f a = some (g a)) : l.mapM f = some (l.map g) := by
  induction l with
  | nil => rfl
  | cons a rest ih =>
    obtain ⟨ha, hrest⟩ := List.forall_mem_cons.mp h
    rw [List.mapM_cons, ha, ih hrest]
    rfl

theorem uniform_of_ne_zero (version : UInt64) (h : count ≠ 0) : uniform version space count =
    ofDocument ⟨version, space, numbersBelow count, uniformRanges space count, []⟩ := if_neg h

theorem exactUniform_eq (version : UInt64) (space count : UInt32) :
    exactUniform version space count = some (uniform version space count) := by
  rw [exactUniform]
  split
  · next h => rw [uniform, if_pos h]
  · next h =>
    have hranges : (numbersBelow (min count space)).mapM (fun s =>
        (exactProduct s (uniformWidth space count)).map fun start => BucketRange.mk start s) =
        some (uniformRanges space count) := by
      apply mapM_eq_some_map
      intro s hs
      have hfits := (uniformStart_lt (mem_numbersBelow.mp hs)).trans space.toNat_lt
      rw [exactProduct, if_pos hfits, Option.map_some]
    rw [exactQuotient, if_neg h, uniform_of_ne_zero version h]
    exact congrArg (Option.bind · _) hranges

theorem stop_uniformRanges (h : s < uniformOwners space count) :
    (uniformRanges space count).stop space s.toNat = uniformStop space count s := by
  rw [RangeTable.stop_eq, uniformRanges, List.getElem?_map, uniformStop]
  split
  · next hlast =>
    rw [getElem?_numbersBelow_eq_none (hlast ▸ (toNat_succ_of_lt h).le)]
    rfl
  · next hlast =>
    have hnext := UInt32.lt_iff_toNat_lt.mp (succ_lt_of_ne h hlast)
    rw [← toNat_succ_of_lt h, getElem?_numbersBelow hnext, UInt32.ofNat_toNat]
    rfl

theorem intervals_uniformRanges (space count : UInt32) :
    (uniformRanges space count).intervals space = (numbersBelow (uniformOwners space count)).map
      fun s => (s * uniformWidth space count, uniformStop space count s, s) := by
  apply List.ext_getElem?
  intro i
  rw [RangeTable.getElem?_intervals, List.getElem?_map, uniformRanges, List.getElem?_map,
    ← uniformRanges]
  rcases Nat.lt_or_ge i (uniformOwners space count).toNat with hi | hi
  · have hs : UInt32.ofNat i < uniformOwners space count := by
      rwa [UInt32.lt_iff_toNat_lt, UInt32.toNat_ofNat_of_lt' (hi.trans (UInt32.toNat_lt _))]
    have hstop := stop_uniformRanges hs
    rw [UInt32.toNat_ofNat_of_lt' (hi.trans (UInt32.toNat_lt _))] at hstop
    rw [getElem?_numbersBelow hi, Option.map_some, Option.map_some, Option.map_some, hstop]
  · rw [getElem?_numbersBelow_eq_none hi]
    rfl

theorem ownedBy_uniformRanges (space count s : UInt32) :
    (uniformRanges space count).ownedBy space s = if s < uniformOwners space count
      then [(s * uniformWidth space count, uniformStop space count s)] else [] := by
  rw [RangeTable.ownedBy, intervals_uniformRanges, List.filter_map]
  change (((numbersBelow _).filter (· = s)).map _).map _ = _
  rw [filter_numbersBelow]
  split <;> rfl

theorem covers_uniformRanges (hspace : space ≠ 0) (hcount : count ≠ 0) :
    (uniformRanges space count).Covers space := by
  have hpos := uniformOwners_pos hspace hcount
  constructor
  · have hfirst : (numbersBelow (uniformOwners space count))[0]? = some 0 :=
      getElem?_numbersBelow (UInt32.lt_iff_toNat_lt.mp hpos)
    rw [List.head?_eq_getElem?, uniformRanges, List.getElem?_map, hfirst]
    simp
  · rw [uniformRanges, List.pairwise_map]
    apply (pairwise_numbersBelow _).imp_of_mem
    intro s s' hs hs' hlt
    rw [UInt32.lt_iff_toNat_lt, toNat_uniformStart (mem_numbersBelow.mp hs),
      toNat_uniformStart (mem_numbersBelow.mp hs')]
    exact Nat.mul_lt_mul_of_pos_right (UInt32.lt_iff_toNat_lt.mp hlt) (uniformWidth_pos ..)
  · intro r hr
    obtain ⟨s, hs, rfl⟩ := List.mem_map.mp hr
    have hs := mem_numbersBelow.mp hs
    rw [UInt32.lt_iff_toNat_lt, toNat_uniformStart hs]
    exact uniformStart_lt hs

def uniformOwner (space count b : UInt32) : UInt32 :=
  min (b / uniformWidth space count) (uniformOwners space count - 1)

theorem toNat_uniformOwner (h : 0 < uniformOwners space count) (b : UInt32) :
    (uniformOwner space count b).toNat =
      min (b.toNat / (uniformWidth space count).toNat) ((uniformOwners space count).toNat - 1) := by
  have hone : 1 ≤ uniformOwners space count := by
    rw [UInt32.le_iff_toNat_le]
    exact UInt32.lt_iff_toNat_lt.mp h
  rw [uniformOwner, UInt32.toNat_min, UInt32.toNat_div, UInt32.toNat_sub_of_le _ _ hone,
    UInt32.toNat_one]

theorem uniformOwner_lt (h : 0 < uniformOwners space count) (b : UInt32) :
    uniformOwner space count b < uniformOwners space count := by
  have hpos := UInt32.lt_iff_toNat_lt.mp h
  rw [UInt32.toNat_zero] at hpos
  rw [UInt32.lt_iff_toNat_lt, toNat_uniformOwner h]
  omega

theorem uniformOwner_start_le (h : 0 < uniformOwners space count) (b : UInt32) :
    uniformOwner space count b * uniformWidth space count ≤ b := by
  rw [UInt32.le_iff_toNat_le, toNat_uniformStart (uniformOwner_lt h b), toNat_uniformOwner h]
  calc min (b.toNat / (uniformWidth space count).toNat) _ * (uniformWidth space count).toNat
      ≤ b.toNat / (uniformWidth space count).toNat * (uniformWidth space count).toNat :=
        Nat.mul_le_mul_right _ (Nat.min_le_left ..)
    _ ≤ b.toNat := Nat.div_mul_le_self ..

theorem lt_uniformOwner_stop (h : 0 < uniformOwners space count) {b : UInt32} (hb : b < space) :
    b < uniformStop space count (uniformOwner space count b) := by
  have hs := uniformOwner_lt h b
  rw [uniformStop]
  split
  · exact hb
  · next hlast =>
    have hnext := succ_lt_of_ne hs hlast
    have hquotient : b.toNat / (uniformWidth space count).toNat =
        (uniformOwner space count b).toNat := by
      rw [UInt32.lt_iff_toNat_lt, toNat_succ_of_lt hs] at hnext
      rw [toNat_uniformOwner h] at hnext ⊢
      omega
    rw [UInt32.lt_iff_toNat_lt, toNat_uniformStart hnext, toNat_succ_of_lt hs, ← hquotient,
      Nat.mul_comm]
    exact Nat.lt_mul_div_succ _ (uniformWidth_pos ..)

theorem owner_uniformRanges (hspace : space ≠ 0) (hcount : count ≠ 0) {b : UInt32} (hb : b < space) :
    (uniformRanges space count).owner b = uniformOwner space count b := by
  have h := uniformOwners_pos hspace hcount
  apply ((covers_uniformRanges hspace hcount).owner_eq_iff hb _).mp
  rw [ownedBy_uniformRanges, if_pos (uniformOwner_lt h b)]
  exact ⟨_, List.mem_singleton_self _, uniformOwner_start_le h b, lt_uniformOwner_stop h hb⟩

structure IsUniform (version : UInt64) (space count : UInt32) (t : Topology) : Prop where
  version_eq : t.version = version
  space_eq : t.space = space
  mem_shards : ∀ s, s ∈ t.shards ↔ s < count
  migrations : t.migrations = []
  owner : ∀ b < space, t.owner b = min (b / max (space / count) 1) (min count space - 1)
  hasBuckets : ∀ s, t.hasBuckets s ↔ s < min count space
  single : ∀ s < min count space, t.ownedBy s =
    [(s * max (space / count) 1, uniformStop space count s)]
  ordered : ∀ s s', s < s' → ∀ p ∈ t.ownedBy s, ∀ q ∈ t.ownedBy s', p.2 ≤ q.1

theorem ordered_uniformRanges (hspace : space ≠ 0) (hcount : count ≠ 0) {s' : ShardNumber}
    (hlt : s < s') {p q : Bucket × UInt32} (hp : p ∈ (uniformRanges space count).ownedBy space s)
    (hq : q ∈ (uniformRanges space count).ownedBy space s') : p.2 ≤ q.1 := by
  rw [ownedBy_uniformRanges, List.mem_ite_nil_right, List.mem_singleton] at hp hq
  obtain ⟨hs, rfl⟩ := hp
  obtain ⟨hs', rfl⟩ := hq
  have hrange : (uniformRanges space count)[s'.toNat]? = some ⟨s' * uniformWidth space count, s'⟩ := by
    rw [uniformRanges, List.getElem?_map, getElem?_numbersBelow (UInt32.lt_iff_toNat_lt.mp hs'),
      UInt32.ofNat_toNat, Option.map_some]
  rw [← stop_uniformRanges hs]
  exact RangeTable.stop_le_start (covers_uniformRanges hspace hcount).ascending
    (UInt32.lt_iff_toNat_lt.mp hlt) hrange

theorem isUniform_of_describes {version : UInt64} {t : Topology} (hspace : space ≠ 0)
    (hcount : count ≠ 0) (h : TopologyDocument.Describes
      ⟨version, space, numbersBelow count, uniformRanges space count, []⟩ t) :
    IsUniform version space count t := by
  have howned : ∀ s, t.ownedBy s = if s < uniformOwners space count
      then [(s * uniformWidth space count, uniformStop space count s)] else [] := by
    intro s
    rw [ownedBy, h.ranges, h.space]
    exact ownedBy_uniformRanges space count s
  constructor
  case version_eq => exact h.version
  case space_eq => exact h.space
  case mem_shards =>
    intro s
    rw [h.mem_shards]
    constructor
    · rintro (hs | ⟨r, hr, rfl⟩)
      · exact mem_numbersBelow.mp hs
      · obtain ⟨s, hs, rfl⟩ := List.mem_map.mp hr
        have hlt := UInt32.lt_iff_toNat_lt.mp (mem_numbersBelow.mp hs)
        rw [toNat_uniformOwners, Nat.lt_min] at hlt
        exact UInt32.lt_iff_toNat_lt.mpr hlt.1
    · intro hs
      exact .inl (mem_numbersBelow.mpr hs)
  case migrations =>
    apply List.eq_nil_iff_forall_not_mem.mpr
    intro m hm
    obtain ⟨before, after, hnil, -⟩ := (h.mem_migrations m).mp hm
    simp at hnil
  case owner =>
    intro b hb
    rw [Layout.owner, h.ranges]
    exact owner_uniformRanges hspace hcount hb
  case hasBuckets =>
    intro s
    rw [hasBuckets_iff, howned, uniformOwners]
    simp
  case single =>
    intro s hs
    rw [howned]
    exact if_pos hs
  case ordered =>
    intro s s' hlt p hp q hq
    rw [ownedBy, h.ranges, h.space] at hp hq
    exact ordered_uniformRanges hspace hcount hlt hp hq

theorem exists_uniform (version : UInt64) (hspace : space.toNat.isPowerOfTwo) (hcount : count ≠ 0) :
    ∃ t, uniform version space count = .ok t ∧ IsUniform version space count t := by
  have hne : space ≠ 0 := by
    rintro rfl
    exact absurd hspace (by decide)
  have hwell : TopologyDocument.WellFormed
      ⟨version, space, numbersBelow count, uniformRanges space count, []⟩ := by
    refine ⟨hspace, covers_uniformRanges hne hcount, ?_⟩
    rintro m ⟨before, after, hnil, -⟩
    simp at hnil
  obtain ⟨t, ht⟩ := exists_ofDocument_eq_ok hwell
  rw [uniform_of_ne_zero version hcount]
  exact ⟨t, ht, isUniform_of_describes hne hcount (ofDocument_eq_ok.mp ht).2⟩

theorem uniform_of_not_powerOfTwo (version : UInt64) (hspace : ¬space.toNat.isPowerOfTwo)
    (hcount : count ≠ 0) : uniform version space count = .error (.spaceNotPowerOfTwo space) := by
  rw [uniform_of_ne_zero version hcount, ofDocument_eq_error]
  exact .space hspace

/-- Shards are spread over any space that is a power of two, and the arithmetic has a result whatever
the space and the number of shards are. -/
theorem uniform_total_and_exact (version : UInt64) (space count : UInt32) :
    exactUniform version space count = some (uniform version space count) ∧
      (uniform version space count = .error .noRanges ↔ count = 0) ∧
      (uniform version space count = .error (.spaceNotPowerOfTwo space) ↔
        count ≠ 0 ∧ ¬space.toNat.isPowerOfTwo) ∧
      (count ≠ 0 ∧ space.toNat.isPowerOfTwo ↔ ∃ t, uniform version space count = .ok t) ∧
      ∀ t, uniform version space count = .ok t → IsUniform version space count t := by
  refine ⟨exactUniform_eq version space count, ?_⟩
  by_cases hcount : count = 0
  · rw [uniform, if_pos hcount]
    simp [hcount]
  by_cases hspace : space.toNat.isPowerOfTwo
  · obtain ⟨t, ht, hu⟩ := exists_uniform version hspace hcount
    rw [ht]
    simp [hcount, hspace, hu]
  · rw [uniform_of_not_powerOfTwo version hspace hcount]
    simp [hcount, hspace]

end Topology

end ShardRouting
