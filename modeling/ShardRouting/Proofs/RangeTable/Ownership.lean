import Mathlib.Data.List.Chain
import ShardRouting.Proofs.RangeTable.Lookup

namespace ShardRouting

theorem succ_le_iff {space b x : UInt32} (hb : b < space) : b + 1 ≤ x ↔ b < x := by
  have hs := space.toNat_lt
  rw [UInt32.lt_iff_toNat_lt] at hb
  rw [UInt32.le_iff_toNat_le, UInt32.lt_iff_toNat_lt, UInt32.toNat_add, UInt32.toNat_one,
    Nat.mod_eq_of_lt (by omega)]
  omega

theorem le_pred_iff {b x : UInt32} (hb : b ≠ 0) : x ≤ b - 1 ↔ x < b := by
  have hpos : b.toNat ≠ 0 := fun h => hb (UInt32.toNat_inj.mp h)
  have hle : (1 : UInt32) ≤ b := by
    rw [UInt32.le_iff_toNat_le, UInt32.toNat_one]
    omega
  rw [UInt32.le_iff_toNat_le, UInt32.lt_iff_toNat_lt, UInt32.toNat_sub_of_le _ _ hle,
    UInt32.toNat_one]
  omega

namespace RangeTable

variable {space : UInt32} {t u : RangeTable}

def Joined (t : RangeTable) : Prop := t.IsChain (·.shard ≠ ·.shard)

theorem holder?_append (t u : RangeTable) (b : Bucket) :
    holder? (t ++ u) b = (u.holder? b).or (t.holder? b) := by
  rw [holder?, List.filter_append, List.getLast?_append]
  rfl

theorem holder?_singleton (r : BucketRange) (b : Bucket) :
    holder? [r] b = if r.start ≤ b then some r else none := by
  by_cases h : r.start ≤ b <;> simp [holder?, h]

theorem holder?_cons (r : BucketRange) (t : RangeTable) (b : Bucket) :
    holder? (r :: t) b = (t.holder? b).or (if r.start ≤ b then some r else none) := by
  rw [← holder?_singleton, ← holder?_append, List.singleton_append]

theorem holder?_eq_none_iff (t : RangeTable) (b : Bucket) :
    t.holder? b = none ↔ ∀ r ∈ t, b < r.start := by
  rw [holder?, List.getLast?_eq_none_iff, List.filter_eq_nil_iff]
  simp only [decide_eq_true_eq, UInt32.not_le]

theorem Covers.owner_congr (ht : t.Covers space) (hu : u.Covers space) {b c : Bucket}
    (h : (t.holder? b).map (·.shard) = (u.holder? c).map (·.shard)) : t.owner b = u.owner c := by
  rw [ht.holder?_map_shard, hu.holder?_map_shard] at h
  exact Option.some.inj h

theorem Covers.owner_mem (h : t.Covers space) (b : Bucket) : ∃ r ∈ t, r.shard = t.owner b := by
  obtain ⟨r, hr, -, -, ho⟩ := h.exists_holder b
  exact ⟨r, List.mem_of_getElem? hr, ho.symm⟩

theorem covers_of_mem_zero (h : t.Ascending) (hz : ∃ r ∈ t, r.start = 0)
    (hs : ∀ r ∈ t, r.start < space) : t.Covers space := by
  refine ⟨?_, h, hs⟩
  obtain ⟨r, hr, hr0⟩ := hz
  cases t with
  | nil => exact absurd hr List.not_mem_nil
  | cons a rest =>
    rw [List.head?_cons, Option.map_some, Option.some.injEq]
    rcases List.mem_cons.mp hr with rfl | hr
    · exact hr0
    · have hlt := (List.pairwise_cons.mp h).1 r hr
      rw [hr0] at hlt
      exact absurd hlt (UInt32.not_lt.mpr UInt32.zero_le)

theorem Covers.exists_zero (h : t.Covers space) : ∃ r ∈ t, r.start = 0 := by
  obtain ⟨r, hr, hz⟩ := Option.map_eq_some_iff.mp h.first
  exact ⟨r, List.mem_of_head? hr, hz⟩

theorem Covers.lt_stop_index_iff (h : t.Covers space) (b : Bucket) {x : Bucket} (hx : x < space) :
    x < t.stop space (t.index b) ↔ ∀ r ∈ t, b < r.start → x < r.start := by
  obtain ⟨⟨q, hq, hqb⟩, hlast⟩ := (h.lastUpTo_iff b _).mpr rfl
  rw [lt_stop_iff h.ascending hx]
  constructor
  · intro hall r hr hbr
    obtain ⟨j, hj⟩ := List.mem_iff_getElem?.mp hr
    refine hall j r ?_ hj
    apply Nat.lt_of_not_le
    intro hle
    rcases Nat.lt_or_eq_of_le hle with hlt | rfl
    · have hrq := Ascending.start_lt h.ascending hlt hj hq
      exact absurd (UInt32.lt_of_lt_of_le (UInt32.lt_trans hbr hrq) hqb) (UInt32.lt_irrefl b)
    · rw [hq] at hj
      exact absurd hqb (UInt32.not_le.mpr (Option.some.inj hj ▸ hbr))
  · intro hall j r hj hr
    exact hall r (List.mem_of_getElem? hr) (hlast j r hj hr)

section Merge

theorem mergeAfter_sublist (s : ShardNumber) (t : RangeTable) : (mergeAfter s t).Sublist t := by
  induction t generalizing s with
  | nil => exact List.Sublist.refl _
  | cons r rest ih =>
    rw [mergeAfter]
    split
    · exact (ih s).cons r
    · exact (ih r.shard).cons_cons r

theorem merge_sublist (t : RangeTable) : t.merge.Sublist t := by
  cases t with
  | nil => exact List.Sublist.refl _
  | cons r rest => exact (mergeAfter_sublist r.shard rest).cons_cons r

theorem joined_cons_mergeAfter (r : BucketRange) (t : RangeTable) :
    Joined (r :: mergeAfter r.shard t) := by
  induction t generalizing r with
  | nil => exact List.isChain_singleton r
  | cons q rest ih =>
    rw [mergeAfter]
    split
    · exact ih r
    · next hne => exact List.isChain_cons_cons.mpr ⟨Ne.symm hne, ih q⟩

theorem joined_merge (t : RangeTable) : t.merge.Joined := by
  cases t with
  | nil => exact List.isChain_nil
  | cons r rest => exact joined_cons_mergeAfter r rest

theorem holder?_cons_mergeAfter {r : BucketRange} (h : Ascending (r :: t)) (b : Bucket) :
    (holder? (r :: mergeAfter r.shard t) b).map (·.shard) =
      (holder? (r :: t) b).map (·.shard) := by
  induction t generalizing r with
  | nil => rfl
  | cons q rest ih =>
    obtain ⟨hrq, hq⟩ := List.pairwise_cons.mp h
    rw [mergeAfter]
    split
    · next hs =>
      have hsub := (List.sublist_cons_self q rest).cons_cons r
      have hr : Ascending (r :: rest) := List.Pairwise.sublist hsub h
      rw [ih hr, holder?_cons, holder?_cons r (q :: rest), holder?_cons q rest]
      cases holder? rest b with
      | some x => rfl
      | none =>
        by_cases hqb : q.start ≤ b
        · have hrb : r.start ≤ b :=
            UInt32.le_of_lt (UInt32.lt_of_lt_of_le (hrq q List.mem_cons_self) hqb)
          simp [hqb, hrb, hs]
        · simp [hqb]
    · rw [holder?_cons, holder?_cons r (q :: rest), Option.map_or, Option.map_or, ih hq]

theorem holder?_merge (h : t.Ascending) (b : Bucket) :
    (t.merge.holder? b).map (·.shard) = (t.holder? b).map (·.shard) := by
  cases t with
  | nil => rfl
  | cons r rest => exact holder?_cons_mergeAfter h b

theorem Covers.merge (h : t.Covers space) : t.merge.Covers space := by
  refine ⟨?_, List.Pairwise.sublist (merge_sublist t) h.ascending,
    fun r hr => h.inSpace r ((merge_sublist t).subset hr)⟩
  have hf := h.first
  cases t <;> exact hf

theorem Covers.owner_merge (h : t.Covers space) (b : Bucket) : t.merge.owner b = t.owner b :=
  h.merge.owner_congr h (holder?_merge h.ascending b)

end Merge

section Split

theorem start_lt_of_mem_takeWhile {b : Bucket} {r : BucketRange}
    (hr : r ∈ t.takeWhile (·.start < b)) : r.start < b := by
  have hall := List.all_takeWhile (p := fun r : BucketRange => decide (r.start < b)) (l := t)
  simpa using List.all_eq_true.mp hall r hr

theorem le_start_of_mem_dropWhile (h : t.Ascending) {b : Bucket} {r : BucketRange}
    (hr : r ∈ t.dropWhile (·.start < b)) : b ≤ r.start := by
  induction t with
  | nil => exact absurd hr List.not_mem_nil
  | cons a rest ih =>
    obtain ⟨ha, hrest⟩ := List.pairwise_cons.mp h
    rw [List.dropWhile_cons] at hr
    split at hr
    · exact ih hrest hr
    · next hab =>
      have hba : b ≤ a.start := by simpa using hab
      rcases List.mem_cons.mp hr with rfl | hr
      · exact hba
      · exact UInt32.le_of_lt (UInt32.lt_of_le_of_lt hba (ha r hr))

theorem mem_dropWhile_iff (h : t.Ascending) {b : Bucket} (hb : ∀ r ∈ t, r.start ≠ b)
    {r : BucketRange} : r ∈ t.dropWhile (·.start < b) ↔ r ∈ t ∧ b < r.start := by
  constructor
  · intro hr
    have hmem := (List.dropWhile_sublist _).subset hr
    exact ⟨hmem, UInt32.lt_of_le_of_ne (le_start_of_mem_dropWhile h hr) (Ne.symm (hb r hmem))⟩
  · rintro ⟨hr, hbr⟩
    rw [← List.takeWhile_append_dropWhile (p := fun r : BucketRange => decide (r.start < b))
      (l := t)] at hr
    rcases List.mem_append.mp hr with hr | hr
    · exact absurd (start_lt_of_mem_takeWhile hr) (UInt32.not_lt.mpr (UInt32.le_of_lt hbr))
    · exact hr

theorem Covers.holder?_dropWhile_eq_none_iff (h : t.Covers space) {b : Bucket}
    (hb : ∀ r ∈ t, r.start ≠ b) {x : Bucket} (hx : x < space) :
    holder? (t.dropWhile (·.start < b)) x = none ↔ x < t.stop space (t.index b) := by
  rw [holder?_eq_none_iff, h.lt_stop_index_iff b hx]
  simp only [mem_dropWhile_iff h.ascending hb, and_imp]

theorem mem_split {b : Bucket} {s : ShardNumber} {r : BucketRange} :
    r ∈ t.split b s ↔ r = ⟨b, s⟩ ∨ r ∈ t := by
  rw [split, List.mem_append, List.mem_cons, or_left_comm]
  apply or_congr_right
  rw [← List.mem_append, List.takeWhile_append_dropWhile]

theorem ascending_split (h : t.Ascending) {b : Bucket} (hb : ∀ r ∈ t, r.start ≠ b)
    (s : ShardNumber) : (t.split b s).Ascending := by
  have hparts : (t.takeWhile (·.start < b) ++ t.dropWhile (·.start < b)).Pairwise
      (·.start < ·.start) := by rwa [List.takeWhile_append_dropWhile]
  obtain ⟨hlow, hhigh, hcross⟩ := List.pairwise_append.mp hparts
  apply List.pairwise_append.mpr
  refine ⟨hlow, List.pairwise_cons.mpr ⟨?_, hhigh⟩, ?_⟩
  · intro r hr
    exact ((mem_dropWhile_iff h hb).mp hr).2
  · intro q hq r hr
    rcases List.mem_cons.mp hr with rfl | hr
    · exact start_lt_of_mem_takeWhile hq
    · exact hcross q hq r hr

theorem Covers.split (h : t.Covers space) {b : Bucket} (hs : b < space)
    (hb : ∀ r ∈ t, r.start ≠ b) (s : ShardNumber) : (t.split b s).Covers space := by
  apply covers_of_mem_zero (ascending_split h.ascending hb s)
  · obtain ⟨r, hr, hz⟩ := h.exists_zero
    exact ⟨r, mem_split.mpr (.inr hr), hz⟩
  · intro r hr
    rcases mem_split.mp hr with rfl | hr
    · exact hs
    · exact h.inSpace r hr

theorem Covers.owner_split (h : t.Covers space) {b : Bucket} (hs : b < space)
    (hb : ∀ r ∈ t, r.start ≠ b) (s : ShardNumber) {x : Bucket} (hx : x < space) :
    (t.split b s).owner x =
      if b ≤ x ∧ x < t.stop space (t.index b) then s else t.owner x := by
  have hsplit : (t.split b s).holder? x =
      (holder? (t.dropWhile (·.start < b)) x).or
        ((if b ≤ x then some ⟨b, s⟩ else none).or (holder? (t.takeWhile (·.start < b)) x)) := by
    rw [RangeTable.split, holder?_append, holder?_cons, Option.or_assoc]
  have ht : t.holder? x =
      (holder? (t.dropWhile (·.start < b)) x).or (holder? (t.takeWhile (·.start < b)) x) := by
    rw [← holder?_append, List.takeWhile_append_dropWhile]
  have hnone := h.holder?_dropWhile_eq_none_iff hb hx
  split
  · next hcut =>
    have howner := (h.split hs hb s).holder?_map_shard x
    rw [hsplit, hnone.mpr hcut.2, if_pos hcut.1] at howner
    exact (Option.some.inj howner).symm
  · next hcut =>
    apply (h.split hs hb s).owner_congr h
    rw [hsplit, ht]
    cases hd : holder? (t.dropWhile (·.start < b)) x with
    | some r => rfl
    | none =>
      have hbx : ¬b ≤ x := fun hbx => hcut ⟨hbx, hnone.mp hd⟩
      rw [if_neg hbx, Option.none_or]

end Split

section Reassign

structure Parts (space : UInt32) (t : RangeTable) (b : Bucket) (low : RangeTable) (r : BucketRange)
    (high : RangeTable) : Prop where
  eq : t = low ++ r :: high
  index : t.index b = low.length
  start_le : r.start ≤ b
  owner : t.owner b = r.shard
  lt_high : ∀ q ∈ high, b < q.start
  lt_stop_iff : ∀ x < space, x < t.stop space (t.index b) ↔ ∀ q ∈ high, x < q.start

theorem Covers.exists_parts (h : t.Covers space) (b : Bucket) :
    ∃ low r high, t.Parts space b low r high := by
  obtain ⟨r, hr, hrb, -, ho⟩ := h.exists_holder b
  obtain ⟨-, hlast⟩ := (h.lastUpTo_iff b _).mpr rfl
  obtain ⟨hi, hir⟩ := List.getElem?_eq_some_iff.mp hr
  have hdrop : ∀ q ∈ t.drop (t.index b + 1), ∃ j, t.index b < j ∧ t[j]? = some q := by
    intro q hq
    obtain ⟨j, hj⟩ := List.mem_iff_getElem?.mp hq
    rw [List.getElem?_drop] at hj
    exact ⟨_, by omega, hj⟩
  refine ⟨t.take (t.index b), r, t.drop (t.index b + 1), ?_, ?_, hrb, ho, ?_, ?_⟩
  · rw [← hir, ← List.drop_eq_getElem_cons hi, List.take_append_drop]
  · rw [List.length_take, Nat.min_eq_left (Nat.le_of_lt hi)]
  · intro q hq
    obtain ⟨j, hij, hj⟩ := hdrop q hq
    exact hlast j q hij hj
  · intro x hx
    rw [lt_stop_iff h.ascending hx]
    constructor
    · intro hall q hq
      obtain ⟨j, hij, hj⟩ := hdrop q hq
      exact hall j q hij hj
    · intro hall j q hij hj
      apply hall
      apply List.mem_of_getElem? (i := j - (t.index b + 1))
      rw [List.getElem?_drop, ← hj]
      congr 1
      omega

variable {b : Bucket} {low high : RangeTable} {r : BucketRange}

theorem Parts.cutOut_eq (h : t.Parts space b low r high) (s : ShardNumber) :
    t.cutOut space b s = low ++ ((if r.start < b then [r] else []) ++
      ⟨b, s⟩ :: (if b + 1 < t.stop space (t.index b) then [⟨b + 1, r.shard⟩] else [])) ++ high := by
  have hget : t[t.index b]? = some r := by rw [h.index, h.eq]; simp
  have htake : t.take (t.index b) = low := by rw [h.index, h.eq]; simp
  have hdrop : t.drop (t.index b + 1) = high := by rw [h.index, h.eq]; simp
  simp only [cutOut, hget, htake, hdrop, Option.toList_some, List.filter_cons, List.filter_nil,
    decide_eq_true_eq]
  congr 4
  split <;> rfl

theorem ascending_replace {mid : RangeTable} (h : Ascending (low ++ r :: high))
    (hmid : mid.Ascending) (hlow : ∀ x ∈ mid, r.start ≤ x.start)
    (hhigh : ∀ x ∈ mid, ∀ q ∈ high, x.start < q.start) : Ascending (low ++ mid ++ high) := by
  obtain ⟨hl, hrh, hcross⟩ := List.pairwise_append.mp h
  obtain ⟨-, hh⟩ := List.pairwise_cons.mp hrh
  have hlm : Ascending (low ++ mid) := by
    refine List.pairwise_append.mpr ⟨hl, hmid, ?_⟩
    intro q hq x hx
    exact UInt32.lt_of_lt_of_le (hcross q hq r List.mem_cons_self) (hlow x hx)
  refine List.pairwise_append.mpr ⟨hlm, hh, ?_⟩
  intro x hx q hq
  rcases List.mem_append.mp hx with hx | hx
  · exact hcross x hx q (List.mem_cons_of_mem r hq)
  · exact hhigh x hx q hq

theorem mem_middle {stop : UInt32} {s : ShardNumber} {x : BucketRange}
    (hx : x ∈ (if r.start < b then [r] else []) ++
      ⟨b, s⟩ :: (if b + 1 < stop then [⟨b + 1, r.shard⟩] else [])) :
    x = r ∧ r.start < b ∨ x = ⟨b, s⟩ ∨ x = ⟨b + 1, r.shard⟩ ∧ b + 1 < stop := by
  simp only [List.mem_append, List.mem_cons, List.mem_ite_nil_right, List.not_mem_nil,
    or_false] at hx
  rcases hx with ⟨h, rfl⟩ | rfl | ⟨h, rfl⟩
  · exact .inl ⟨rfl, h⟩
  · exact .inr (.inl rfl)
  · exact .inr (.inr ⟨rfl, h⟩)

theorem Covers.mem_cutOut (h : t.Covers space) {s : ShardNumber} {x : BucketRange}
    (hx : x ∈ t.cutOut space b s) :
    x ∈ t ∨ x = ⟨b, s⟩ ∨ x = ⟨b + 1, t.owner b⟩ ∧ b + 1 < t.stop space (t.index b) := by
  obtain ⟨low, r, high, hp⟩ := h.exists_parts b
  rw [hp.cutOut_eq, List.mem_append, List.mem_append] at hx
  rcases hx with (hx | hx) | hx
  · exact .inl (hp.eq ▸ List.mem_append_left _ hx)
  · rcases mem_middle hx with ⟨rfl, -⟩ | rfl | ⟨rfl, hlt⟩
    · exact .inl (hp.eq ▸ List.mem_append_right _ List.mem_cons_self)
    · exact .inr (.inl rfl)
    · exact .inr (.inr ⟨hp.owner ▸ rfl, hlt⟩)
  · exact .inl (hp.eq ▸ List.mem_append_right _ (List.mem_cons_of_mem r hx))

theorem Covers.ascending_cutOut (h : t.Covers space) (hb : b < space) (s : ShardNumber) :
    (t.cutOut space b s).Ascending := by
  obtain ⟨low, r, high, hp⟩ := h.exists_parts b
  have hsucc : b < b + 1 := (succ_le_iff hb).mp (UInt32.le_refl _)
  have hasc : Ascending (low ++ r :: high) := hp.eq ▸ h.ascending
  rw [hp.cutOut_eq]
  apply ascending_replace hasc
  · apply List.pairwise_append.mpr
    refine ⟨by split <;> simp, List.pairwise_cons.mpr ⟨?_, by split <;> simp⟩, ?_⟩
    · intro x hx
      obtain ⟨-, rfl⟩ := by simpa using hx
      exact hsucc
    · intro q hq x hx
      obtain ⟨hlt, rfl⟩ : r.start < b ∧ q = r := by simpa using hq
      rcases List.mem_cons.mp hx with rfl | hx
      · exact hlt
      · obtain ⟨-, rfl⟩ := by simpa using hx
        exact UInt32.lt_trans hlt hsucc
  · intro x hx
    rcases mem_middle hx with ⟨rfl, -⟩ | rfl | ⟨rfl, -⟩
    · exact UInt32.le_refl _
    · exact hp.start_le
    · exact UInt32.le_of_lt (UInt32.lt_of_le_of_lt hp.start_le hsucc)
  · intro x hx q hq
    rcases mem_middle hx with ⟨rfl, -⟩ | rfl | ⟨rfl, hlt⟩
    · exact UInt32.lt_of_le_of_lt hp.start_le (hp.lt_high q hq)
    · exact hp.lt_high q hq
    · exact (hp.lt_stop_iff _ (UInt32.lt_of_lt_of_le hlt (h.stop_le _))).mp hlt q hq

theorem Covers.cutOut (h : t.Covers space) (hb : b < space) (s : ShardNumber) :
    (t.cutOut space b s).Covers space := by
  apply covers_of_mem_zero (h.ascending_cutOut hb s)
  · obtain ⟨low, r, high, hp⟩ := h.exists_parts b
    obtain ⟨z, hz, hz0⟩ := h.exists_zero
    rw [hp.cutOut_eq]
    rw [hp.eq, List.mem_append, List.mem_cons] at hz
    rcases hz with hz | rfl | hz
    · exact ⟨z, by simp [hz], hz0⟩
    · by_cases hzb : z.start < b
      · exact ⟨z, by simp [hzb], hz0⟩
      · have hbz : b = z.start := UInt32.le_antisymm (UInt32.not_lt.mp hzb) hp.start_le
        exact ⟨⟨b, s⟩, by simp, hbz.trans hz0⟩
    · exact ⟨z, by simp [hz], hz0⟩
  · intro x hx
    rcases h.mem_cutOut hx with hx | rfl | ⟨rfl, hlt⟩
    · exact h.inSpace x hx
    · exact hb
    · exact UInt32.lt_of_lt_of_le hlt (h.stop_le _)

theorem holder?_ite (c : Prop) [Decidable c] (r : BucketRange) (x : Bucket) :
    holder? (if c then [r] else []) x = if c ∧ r.start ≤ x then some r else none := by
  by_cases hc : c
  · simp only [hc, if_true, true_and, holder?_singleton]
  · simp only [hc, if_false, false_and, holder?, List.filter_nil, List.getLast?_nil]

theorem Parts.holder?_cutOut (h : t.Parts space b low r high) (hb : b < space) (s : ShardNumber)
    {x : Bucket} (hx : x < space) :
    ((t.cutOut space b s).holder? x).map (·.shard) =
      if x = b then some s else (t.holder? x).map (·.shard) := by
  have hold : t.holder? x =
      ((holder? high x).or (if r.start ≤ x then some r else none)).or (holder? low x) := by
    rw [h.eq, holder?_append, holder?_cons]
  rw [h.cutOut_eq, hold]
  simp only [holder?_append, holder?_cons, holder?_ite, succ_le_iff hb]
  cases hh : holder? high x with
  | some q =>
    have hne : x ≠ b := by
      rintro rfl
      rw [(holder?_eq_none_iff high x).mpr h.lt_high] at hh
      exact absurd hh (by simp)
    simp [hne]
  | none =>
    have hstop : x < t.stop space (t.index b) :=
      (h.lt_stop_iff x hx).mpr ((holder?_eq_none_iff high x).mp hh)
    rcases Std.lt_trichotomy x b with hxb | rfl | hbx
    · have hne : x ≠ b := fun he => UInt32.lt_irrefl b (he ▸ hxb)
      have hbx : ¬b < x := UInt32.not_lt.mpr (UInt32.le_of_lt hxb)
      have hcond : r.start < b ∧ r.start ≤ x ↔ r.start ≤ x :=
        and_iff_right_of_imp fun hr => UInt32.lt_of_le_of_lt hr hxb
      simp only [hne, hbx, UInt32.not_le.mpr hxb, hcond, and_false, if_false, Option.none_or]
    · simp
    · have hne : x ≠ b := fun he => UInt32.lt_irrefl b (he ▸ hbx)
      have hsucc : b + 1 < t.stop space (t.index b) :=
        UInt32.lt_of_le_of_lt ((succ_le_iff hb).mpr hbx) hstop
      have hrx : r.start ≤ x := UInt32.le_trans h.start_le (UInt32.le_of_lt hbx)
      simp [hne, hsucc, hbx, hrx]

theorem Covers.owner_cutOut (h : t.Covers space) (hb : b < space) (s : ShardNumber)
    {x : Bucket} (hx : x < space) :
    (t.cutOut space b s).owner x = if x = b then s else t.owner x := by
  obtain ⟨low, r, high, hp⟩ := h.exists_parts b
  have hcut := (h.cutOut hb s).holder?_map_shard x
  rw [hp.holder?_cutOut hb s hx, h.holder?_map_shard] at hcut
  apply Option.some.inj
  rw [← hcut]
  split <;> rfl

theorem Covers.reassign (h : t.Covers space) (hb : b < space) (s : ShardNumber) :
    (t.reassign space b s).Covers space := (h.cutOut hb s).merge

theorem Covers.owner_reassign (h : t.Covers space) (hb : b < space) (s : ShardNumber)
    {x : Bucket} (hx : x < space) :
    (t.reassign space b s).owner x = if x = b then s else t.owner x := by
  rw [RangeTable.reassign, (h.cutOut hb s).owner_merge, h.owner_cutOut hb s hx]

theorem joined_reassign (space : UInt32) (t : RangeTable) (b : Bucket) (s : ShardNumber) :
    (t.reassign space b s).Joined := joined_merge _

theorem Covers.shard_of_mem_reassign (h : t.Covers space) {s : ShardNumber} {x : BucketRange}
    (hx : x ∈ t.reassign space b s) : x.shard = s ∨ ∃ q ∈ t, q.shard = x.shard := by
  rcases h.mem_cutOut ((merge_sublist _).subset hx) with hx | rfl | ⟨rfl, -⟩
  · exact .inr ⟨x, hx, rfl⟩
  · exact .inl rfl
  · exact .inr (h.owner_mem b)

end Reassign

end RangeTable

end ShardRouting
