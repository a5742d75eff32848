import Mathlib.Data.List.Sort
import Mathlib.Data.List.Nodup
import Mathlib.Order.Bounds.Basic
import ShardRouting.Gather.Collect

namespace ShardRouting

namespace Limits

variable (l : Limits)

def Admits (t : Nat) : Prop := (∀ c ∈ l.cancelAt, t < c) ∧ ∀ d ∈ l.deadline, t ≤ d

theorem interruption_eq_none : l.interruption = none ↔ l.cancelAt = none ∧ l.deadline = none := by
  rw [interruption]
  cases l.cancelAt <;> cases l.deadline <;> simp

variable {l} {t : Nat} {moment : Nat} {i : Interruption}

theorem Admits.mono {t' : Nat} (h : l.Admits t) (hle : t' ≤ t) : l.Admits t' :=
  ⟨fun c hc => hle.trans_lt (h.1 c hc), fun d hd => hle.trans (h.2 d hd)⟩

theorem admits_of_free (h : l.interruption = none) : l.Admits t := by
  obtain ⟨hc, hd⟩ := l.interruption_eq_none.mp h
  simp [Admits, hc, hd]

theorem interruption_cases (h : l.interruption = some (moment, i)) :
    i = .cancellation ∧ l.cancelAt = some moment ∧ (∀ d ∈ l.deadline, moment ≤ d) ∨
      i = .deadline ∧ l.deadline = some moment ∧ ∀ c ∈ l.cancelAt, moment < c := by
  rw [interruption] at h
  split at h
  · next c d hc hd =>
    split at h <;> cases h
    · next hle => exact .inl ⟨rfl, hc, by simpa [hd] using hle⟩
    · next hle => exact .inr ⟨rfl, hd, by simpa [hc] using hle⟩
  · next c hc hd =>
    cases h
    exact .inl ⟨rfl, hc, by simp [hd]⟩
  · next d hc hd =>
    cases h
    exact .inr ⟨rfl, hd, by simp [hc]⟩
  · cases h

theorem moment_le (h : l.interruption = some (moment, i)) :
    (∀ d ∈ l.deadline, moment ≤ d) ∧ ∀ c ∈ l.cancelAt, moment ≤ c := by
  rcases interruption_cases h with ⟨-, hc, hd⟩ | ⟨-, hd, hc⟩
  · exact ⟨hd, by simp [hc]⟩
  · exact ⟨by simp [hd], fun c h => (hc c h).le⟩

theorem admits_iff (h : l.interruption = some (moment, i)) :
    l.Admits t ↔ i.precedes moment t = false := by
  rcases interruption_cases h with ⟨rfl, hc, hd⟩ | ⟨rfl, hd, hc⟩
  · have hle : t < moment → ∀ d ∈ l.deadline, t ≤ d := fun hlt d h => hlt.le.trans (hd d h)
    simpa [Admits, Interruption.precedes, hc] using hle
  · have hlt : t ≤ moment → ∀ c ∈ l.cancelAt, t < c := fun hle c h => hle.trans_lt (hc c h)
    simpa [Admits, Interruption.precedes, hd] using hlt

theorem moment_le_of_not_admits (h : ¬l.Admits t) (hi : l.interruption = some (moment, i)) :
    moment ≤ t := by
  rw [admits_iff hi, Bool.not_eq_false] at h
  cases i with
  | cancellation => exact of_decide_eq_true h
  | deadline => exact (of_decide_eq_true h : moment < t).le

end Limits

structure Timetable (arrivals : List Arrival) : Prop where
  ordered : arrivals.Pairwise fun a b => a.instant ≤ b.instant
  distinct : (arrivals.map Arrival.shard).Nodup

namespace Timetable

variable {past rest : List Arrival} {a : Arrival}

theorem left (h : Timetable (past ++ rest)) : Timetable past where
  ordered := (List.pairwise_append.mp h.ordered).1
  distinct := by
    have hdistinct := h.distinct
    rw [List.map_append] at hdistinct
    exact (List.nodup_append.mp hdistinct).1

theorem instant_le (h : Timetable (past ++ a :: rest)) : ∀ b ∈ rest, a.instant ≤ b.instant :=
  (List.pairwise_cons.mp (List.pairwise_append.mp h.ordered).2.1).1

theorem le_instant (h : Timetable (past ++ [a])) : ∀ b ∈ past, b.instant ≤ a.instant :=
  fun b hb => (List.pairwise_append.mp h.ordered).2.2 b hb a List.mem_cons_self

theorem shard_notMem (h : Timetable (past ++ [a])) : a.shard ∉ past.map Arrival.shard := by
  intro hmem
  have hdistinct := h.distinct
  rw [List.map_append] at hdistinct
  exact (List.nodup_append.mp hdistinct).2.2 _ hmem _ List.mem_cons_self rfl

end Timetable

structure Schedule (tr : Transport) (shards : List ShardNumber) (arrivals : List Arrival) : Prop
    extends Timetable arrivals where
  mem_iff : ∀ a, a ∈ arrivals ↔ a.shard ∈ shards ∧ tr a.shard = some (a.instant, a.ending)

namespace Schedule

variable {tr : Transport} {shards : List ShardNumber} {arrivals : List Arrival}

theorem inOrder (tr : Transport) (hd : shards.Nodup) :
    Schedule tr shards (Arrival.inOrder tr shards) := by
  set unsorted := shards.filterMap fun s => (tr s).map fun e => (⟨e.1, s, e.2⟩ : Arrival)
    with hunsorted
  have hperm : (Arrival.inOrder tr shards).Perm unsorted := List.mergeSort_perm ..
  constructor
  · constructor
    · have htrans : ∀ a b c : Arrival, decide (a.instant ≤ b.instant) →
          decide (b.instant ≤ c.instant) → decide (a.instant ≤ c.instant) := by
        intro a b c hab hbc
        exact decide_eq_true ((of_decide_eq_true hab).trans (of_decide_eq_true hbc))
      have htotal : ∀ a b : Arrival,
          decide (a.instant ≤ b.instant) || decide (b.instant ≤ a.instant) := by
        intro a b
        simpa using Nat.le_total a.instant b.instant
      exact (List.pairwise_mergeSort htrans htotal unsorted).imp of_decide_eq_true
    · rw [(hperm.map Arrival.shard).nodup_iff]
      apply List.pairwise_map.mpr
      apply List.pairwise_filterMap.mpr
      refine hd.imp ?_
      intro s s' hne a ha b hb
      obtain ⟨_, -, rfl⟩ := Option.map_eq_some_iff.mp ha
      obtain ⟨_, -, rfl⟩ := Option.map_eq_some_iff.mp hb
      exact hne
  · rintro ⟨instant, s, ending⟩
    rw [hperm.mem_iff, hunsorted]
    simp [List.mem_filterMap]

variable (hs : Schedule tr shards arrivals)
include hs

theorem mem_shards_iff (s : ShardNumber) :
    s ∈ arrivals.map Arrival.shard ↔ s ∈ shards ∧ (tr s).isSome := by
  rw [List.mem_map]
  constructor
  · rintro ⟨a, ha, rfl⟩
    obtain ⟨hshard, htr⟩ := (hs.mem_iff a).mp ha
    exact ⟨hshard, by rw [htr]; rfl⟩
  · rintro ⟨hshard, hsome⟩
    obtain ⟨⟨instant, ending⟩, htr⟩ := Option.isSome_iff_exists.mp hsome
    exact ⟨⟨instant, s, ending⟩, (hs.mem_iff _).mpr ⟨hshard, htr⟩, rfl⟩

theorem length_eq_iff (hd : shards.Nodup) :
    arrivals.length = shards.length ↔ ∀ s ∈ shards, (tr s).isSome := by
  have hsub : (arrivals.map Arrival.shard).Subperm shards :=
    List.subperm_of_subset hs.distinct fun s h => ((hs.mem_shards_iff s).mp h).1
  constructor
  · intro hlen s hmem
    have hperm : (arrivals.map Arrival.shard).Perm shards :=
      hsub.perm_of_length_le (by simp [hlen])
    exact ((hs.mem_shards_iff s).mp (hperm.mem_iff.mpr hmem)).2
  · intro hall
    have hperm : (arrivals.map Arrival.shard).Perm shards := by
      rw [List.perm_ext_iff_of_nodup hs.distinct hd]
      intro s
      rw [hs.mem_shards_iff]
      exact and_iff_left_of_imp (hall s)
    simpa using hperm.length_eq

end Schedule

def Transport.Ended (tr : Transport) (s : ShardNumber) (t : Nat) : Prop := ∃ e ∈ tr s, e.1 ≤ t

theorem nodup_toList (shards : OrderedSet ShardNumber) : shards.toList.Nodup :=
  shards.ascending.imp UInt32.ne_of_lt

def Over (tr : Transport) (l : Limits) (shards : OrderedSet ShardNumber) (t : Nat) : Prop :=
  (∀ s ∈ shards, tr.Ended s t) ∨ (∃ d ∈ l.deadline, d ≤ t) ∨ ∃ c ∈ l.cancelAt, c ≤ t

theorem not_over {tr : Transport} {l : Limits} {shards : OrderedSet ShardNumber}
    (hfree : l.interruption = none) {s : ShardNumber} (hs : s ∈ shards) (hhangs : tr s = none)
    (t : Nat) : ¬Over tr l shards t := by
  obtain ⟨hc, hd⟩ := l.interruption_eq_none.mp hfree
  rintro (hall | ⟨d, hd', -⟩ | ⟨c, hc', -⟩)
  · obtain ⟨e, he, -⟩ := hall s hs
    simp [hhangs] at he
  · simp [hd] at hd'
  · simp [hc] at hc'

theorem Schedule.ended_iff {tr : Transport} {shards : List ShardNumber} {arrivals : List Arrival}
    (hs : Schedule tr shards arrivals) (t : Nat) : (∀ s ∈ shards, tr.Ended s t) ↔
      (∀ s ∈ shards, (tr s).isSome) ∧ ∀ a ∈ arrivals, a.instant ≤ t := by
  constructor
  · intro h
    constructor
    · intro s hshard
      obtain ⟨e, he, -⟩ := h s hshard
      exact Option.isSome_of_mem he
    · intro a ha
      obtain ⟨hshard, htr⟩ := (hs.mem_iff a).mp ha
      obtain ⟨e, he, hle⟩ := h a.shard hshard
      obtain rfl := Option.some.inj (htr.symm.trans he)
      exact hle
  · rintro ⟨hsome, hall⟩ s hshard
    obtain ⟨⟨instant, ending⟩, htr⟩ := Option.isSome_iff_exists.mp (hsome s hshard)
    exact ⟨_, htr, hall ⟨instant, s, ending⟩ ((hs.mem_iff _).mpr ⟨hshard, htr⟩)⟩

end ShardRouting
