import Mathlib.Order.Bounds.Basic
import ShardRouting.Proofs.Query.Fingerprint
import ShardRouting.Proofs.Query.Totals

namespace ShardRouting

namespace Timestamp

instance : LE Timestamp := ⟨fun a b => a.le b⟩

instance : DecidableLE Timestamp := fun a b => inferInstanceAs (Decidable (a.le b = true))

theorem le_iff {a b : Timestamp} :
    a ≤ b ↔ a.seconds < b.seconds ∨ a.seconds = b.seconds ∧ a.nanos ≤ b.nanos := by
  change a.le b = true ↔ _
  simp [le]

instance : Std.IsLinearOrder Timestamp where
  le_refl a := le_iff.mpr (.inr ⟨rfl, Nat.le_refl _⟩)
  le_trans a b c := by
    simp only [le_iff]
    omega
  le_antisymm a b := by
    cases a
    cases b
    simp only [le_iff, Timestamp.mk.injEq]
    omega
  le_total a b := by
    simp only [le_iff]
    omega

end Timestamp

section Greatest

theorem isGreatest_self {α : Type} [LE α] [Std.IsLinearPreorder α] (a : α) : IsGreatest {a} a :=
  ⟨rfl, fun _ hx => hx ▸ Std.le_refl _⟩

theorem isGreatest_union {α : Type} [LE α] [DecidableLE α] [Std.IsLinearPreorder α] {s u : Set α}
    {a b : α} (ha : IsGreatest s a) (hb : IsGreatest u b) :
    IsGreatest (s ∪ u) (if a ≤ b then b else a) := by
  split
  · next hab =>
    refine ⟨.inr hb.1, ?_⟩
    rintro x (hx | hx)
    · exact Std.le_trans (ha.2 hx) hab
    · exact hb.2 hx
  · next hab =>
    have hba : b ≤ a := Std.le_of_not_ge hab
    refine ⟨.inl ha.1, ?_⟩
    rintro x (hx | hx)
    · exact ha.2 hx
    · exact Std.le_trans (hb.2 hx) hba

inductive GreatestIn (s : Set UInt64) : Option UInt64 → Prop
  | absent (h : s = ∅) : GreatestIn s none
  | present {a : UInt64} (h : IsGreatest s a) : GreatestIn s (some a)

theorem GreatestIn.union {s u : Set UInt64} {o o' : Option UInt64} (h : GreatestIn s o)
    (h' : GreatestIn u o') : GreatestIn (s ∪ u) (Combination.laterCommand o o') := by
  cases h with
  | absent hs =>
    rw [hs, Set.empty_union]
    cases h' with
    | absent hu => exact .absent hu
    | present hb => exact .present hb
  | present ha =>
    cases h' with
    | absent hu =>
      rw [hu, Set.union_empty]
      exact .present ha
    | present hb => exact .present (isGreatest_union ha hb)

theorem greatestIn_option (o : Option UInt64) : GreatestIn {i | o = some i} o := by
  cases o with
  | none => exact .absent (by simp)
  | some a =>
    have hset : {i | some a = some i} = {a} := by
      ext i
      simp [eq_comm]
    rw [hset]
    exact .present (isGreatest_self a)

theorem greatestIn_foldl {s : Set UInt64} {o : Option UInt64} (h : GreatestIn s o)
    (os : List (Option UInt64)) :
    GreatestIn (s ∪ {i | some i ∈ os}) (os.foldl Combination.laterCommand o) := by
  induction os generalizing s o with
  | nil => simpa using h
  | cons o' os ih =>
    have hset : {i | some i ∈ o' :: os} = {i | o' = some i} ∪ {i | some i ∈ os} := by
      ext i
      simp [eq_comm]
    rw [hset, ← Set.union_assoc]
    exact ih (h.union (greatestIn_option o'))

theorem isGreatest_foldl_latest {s : Set Timestamp} {t : Timestamp} (h : IsGreatest s t)
    (ts : List Timestamp) : IsGreatest (s ∪ {x | x ∈ ts}) (ts.foldl .latest t) := by
  induction ts generalizing s t with
  | nil => simpa using h
  | cons t' ts ih =>
    have hset : {x | x ∈ t' :: ts} = {t'} ∪ {x | x ∈ ts} := by
      ext x
      simp
    rw [hset, ← Set.union_assoc]
    exact ih (isGreatest_union h (isGreatest_self t'))

inductive LatestOf : List Timestamp → Timestamp → Prop
  | none : LatestOf [] .epoch
  | some {ts : List Timestamp} {t : Timestamp} (h : IsGreatest {x | x ∈ ts} t) : LatestOf ts t

theorem latestOf_foldl (f : QueryResult → Timestamp) (qs : List QueryResult) :
    LatestOf (qs.map f) ((qs.map f).foldl .latest (qs.head?.elim .epoch f)) := by
  cases qs with
  | nil => exact .none
  | cons q rest =>
    have h := isGreatest_foldl_latest (isGreatest_self (f q)) ((q :: rest).map f)
    rw [Set.union_eq_self_of_subset_left (by simp)] at h
    exact .some h

end Greatest

namespace Combination

variable {kind : IncludeKind} {c c' c'' : Combination} {q : QueryResult} {qs : List QueryResult}

structure Gathers (c : Combination) (qs : List QueryResult) (c' : Combination) : Prop where
  isStale : c'.isStale = (c.isStale || qs.any (·.isStale))
  indexTimestamp : c'.indexTimestamp = (qs.map (·.indexTimestamp)).foldl .latest c.indexTimestamp
  lastQueryTime : c'.lastQueryTime = (qs.map (·.lastQueryTime)).foldl .latest c.lastQueryTime
  raftCommandIndex :
    c'.raftCommandIndex = (qs.map (·.raftCommandIndex)).foldl laterCommand c.raftCommandIndex
  results : c'.results = c.results ++ qs.flatMap (·.results)

theorem gathers_add {s : ShardNumber} (h : (c.add kind s q).value = .ok c') :
    c.Gathers [q] c' := by
  rw [add] at h
  split at h
  · cases h
    constructor <;> simp
  · cases h
  · cases h

theorem Gathers.cons (h : c.Gathers [q] c') (h' : c'.Gathers qs c'') : c.Gathers (q :: qs) c'' where
  isStale := by simp [h'.isStale, h.isStale, Bool.or_assoc]
  indexTimestamp := by simp [h'.indexTimestamp, h.indexTimestamp]
  lastQueryTime := by simp [h'.lastQueryTime, h.lastQueryTime]
  raftCommandIndex := by simp [h'.raftCommandIndex, h.raftCommandIndex]
  results := by simp [h'.results, h.results]

theorem gathers_addAll {l : List (ShardNumber × QueryResult)}
    (h : (c.addAll kind l).value = .ok c') : c.Gathers (l.map Prod.snd) c' := by
  induction l generalizing c with
  | nil =>
    cases h
    constructor <;> simp
  | cons e rest ih =>
    obtain ⟨next, hnext, hrest⟩ := addAll_cons_eq_ok.mp h
    exact (gathers_add hnext).cons (ih hrest)

end Combination

def rowsOf (l : List (ShardNumber × QueryResult)) : List Json := l.flatMap fun e => e.2.results

structure Aggregates (m : OrderedMap ShardNumber QueryResult) (r : CombinedResult) : Prop where
  totalResults : r.totalResults.toNat = sumOf QueryResult.totalResults m.entries
  skippedResults : r.skippedResults.toNat = sumOf QueryResult.skippedResults m.entries
  isStale : r.isStale ↔ ∃ q ∈ m.values, q.isStale
  indexTimestamp : LatestOf (m.values.map (·.indexTimestamp)) r.indexTimestamp
  lastQueryTime : LatestOf (m.values.map (·.lastQueryTime)) r.lastQueryTime
  raftCommandIndex :
    GreatestIn {i | some i ∈ m.values.map (·.raftCommandIndex)} r.raftCommandIndex
  resultEtag : ∀ etags, etags.Perm (m.entries.map fun e => (e.1, e.2.resultEtag)) →
    r.resultEtag = combineEtags etags
  shards : r.shards = m.keys.toList
  ascending : r.shards.Pairwise (· < ·)
  results : r.results = rowsOf m.entries
  placed : ∀ s q, m.get? s = some q → ∃ low high, m.entries = low ++ (s, q) :: high ∧
    (∀ e ∈ low, e.1 < s) ∧ (∀ e ∈ high, s < e.1) ∧
      r.results = rowsOf low ++ q.results ++ rowsOf high
  once : ∀ p, r.results.countP p = (m.values.map fun q => q.results.countP p).sum

structure Repeats (s : ShardNumber) (q : QueryResult) (r : CombinedResult) : Prop where
  totalResults : r.totalResults = q.totalResults
  skippedResults : r.skippedResults = q.skippedResults
  isStale : r.isStale = q.isStale
  indexTimestamp : r.indexTimestamp = q.indexTimestamp
  lastQueryTime : r.lastQueryTime = q.lastQueryTime
  raftCommandIndex : r.raftCommandIndex = q.raftCommandIndex
  resultEtag : r.resultEtag = q.resultEtag
  shards : r.shards = [s]
  results : r.results = q.results

variable {kind : IncludeKind} {m : OrderedMap ShardNumber QueryResult}

theorem placed_rows {s : ShardNumber} {q : QueryResult} (h : m.get? s = some q) :
    ∃ low high, m.entries = low ++ (s, q) :: high ∧ (∀ e ∈ low, e.1 < s) ∧
      (∀ e ∈ high, s < e.1) ∧ rowsOf m.entries = rowsOf low ++ q.results ++ rowsOf high := by
  obtain ⟨low, high, hentries⟩ := List.append_of_mem (OrderedMap.get?_eq_some_iff.mp h)
  have hasc := m.ascending
  rw [hentries] at hasc
  obtain ⟨-, hhigh, hlow⟩ := List.pairwise_append.mp hasc
  refine ⟨low, high, hentries, ?_, ?_, ?_⟩
  · intro e he
    exact hlow e he (s, q) List.mem_cons_self
  · exact (List.pairwise_cons.mp hhigh).1
  · rw [hentries, rowsOf, rowsOf, rowsOf, List.flatMap_append, List.flatMap_cons, List.append_assoc]

theorem countP_rowsOf (p : Json → Bool) (m : OrderedMap ShardNumber QueryResult) :
    (rowsOf m.entries).countP p = (m.values.map fun q => q.results.countP p).sum := by
  rw [rowsOf, List.countP_flatMap, OrderedMap.values, List.map_map]
  rfl

theorem combineEtags_eq_of_perm {etags : List (ShardNumber × UInt64)}
    (h : etags.Perm (m.entries.map fun e => (e.1, e.2.resultEtag))) :
    combineEtags (m.entries.map fun e => (e.1, e.2.resultEtag)) = combineEtags etags := by
  have hasc : (m.entries.map fun e => (e.1, e.2.resultEtag)).Pairwise (fun a b => a.1 < b.1) :=
    List.pairwise_map.mpr m.ascending
  rw [Fingerprint.combineEtags_eq_folded (.refl _) hasc, Fingerprint.combineEtags_eq_folded h hasc]

theorem aggregates_finish {c : Combination}
    (hext : (Combination.opening m.values.head?).Extends m.entries c)
    (hgathers : (Combination.opening m.values.head?).Gathers m.values c) :
    Aggregates m c.finish := by
  have hshards := shards_finish hext
  have hrows : c.finish.results = rowsOf m.entries := by
    rw [Combination.finish, hgathers.results, OrderedMap.values, List.flatMap_map]
    rfl
  constructor
  case totalResults =>
    rw [Combination.finish, hext.totalResults]
    exact Nat.zero_add _
  case skippedResults =>
    rw [Combination.finish, hext.skippedResults]
    exact Nat.zero_add _
  case isStale =>
    rw [Combination.finish, hgathers.isStale]
    simp [Combination.opening]
  case indexTimestamp =>
    rw [Combination.finish, hgathers.indexTimestamp]
    exact latestOf_foldl QueryResult.indexTimestamp m.values
  case lastQueryTime =>
    rw [Combination.finish, hgathers.lastQueryTime]
    exact latestOf_foldl QueryResult.lastQueryTime m.values
  case raftCommandIndex =>
    rw [Combination.finish, hgathers.raftCommandIndex]
    have h := greatestIn_foldl (.absent rfl) (m.values.map (·.raftCommandIndex))
    rwa [Set.empty_union] at h
  case resultEtag =>
    intro etags hperm
    rw [Combination.finish, hext.etags]
    exact combineEtags_eq_of_perm hperm
  case shards => exact hshards
  case ascending =>
    rw [hshards]
    exact m.keys.ascending
  case results => exact hrows
  case placed =>
    intro s q h
    rw [hrows]
    exact placed_rows h
  case once =>
    intro p
    rw [hrows]
    exact countP_rowsOf p m

theorem exists_aggregates (kind : IncludeKind) (h : SumsFit m) :
    ∃ r, (combine kind m).value = .ok r ∧ Aggregates m r := by
  obtain ⟨c, hadd, hext⟩ := addAll_of_sumsFit kind h
  have hgathers := Combination.gathers_addAll hadd
  exact ⟨c.finish, combine_eq_ok.mpr ⟨c, hadd, rfl⟩, aggregates_finish hext hgathers⟩

theorem LatestOf.eq_of_singleton {t t' : Timestamp} (h : LatestOf [t] t') : t' = t := by
  cases h with
  | some h => exact List.mem_singleton.mp h.1

theorem GreatestIn.eq_of_singleton {o o' : Option UInt64} (h : GreatestIn {i | some i ∈ [o]} o') :
    o' = o := by
  cases h with
  | absent h =>
    cases o with
    | none => rfl
    | some i =>
      have hi : i ∈ ({i' | some i' ∈ [some i]} : Set UInt64) := List.mem_singleton.mpr rfl
      rw [h] at hi
      cases hi
  | present h => exact List.mem_singleton.mp h.1

theorem Aggregates.repeats {s : ShardNumber} {q : QueryResult} {r : CombinedResult}
    (h : Aggregates m r) (hm : m.entries = [(s, q)]) : Repeats s q r := by
  have hvalues : m.values = [q] := by rw [OrderedMap.values, hm]; rfl
  constructor
  case totalResults =>
    have htotal := h.totalResults
    rw [hm] at htotal
    exact UInt64.toNat_inj.mp htotal
  case skippedResults =>
    have hskipped := h.skippedResults
    rw [hm] at hskipped
    exact UInt64.toNat_inj.mp hskipped
  case isStale =>
    have hstale := h.isStale
    rw [hvalues] at hstale
    simpa using hstale
  case indexTimestamp =>
    have hlatest := h.indexTimestamp
    rw [hvalues] at hlatest
    exact hlatest.eq_of_singleton
  case lastQueryTime =>
    have hlatest := h.lastQueryTime
    rw [hvalues] at hlatest
    exact hlatest.eq_of_singleton
  case raftCommandIndex =>
    have hgreatest := h.raftCommandIndex
    rw [hvalues] at hgreatest
    exact hgreatest.eq_of_singleton
  case resultEtag =>
    rw [h.resultEtag _ (.refl _), hm]
    exact Fingerprint.combineEtags_singleton s q.resultEtag
  case shards =>
    simp [h.shards, OrderedMap.keys, hm]
  case results =>
    rw [h.results, hm]
    exact List.append_nil _

theorem sumsFit_of_singleton {s : ShardNumber} {q : QueryResult} (hm : m.entries = [(s, q)]) :
    SumsFit m := by
  have htotal := q.totalResults.toNat_lt_size
  have hskipped := q.skippedResults.toNat_lt_size
  rw [SumsFit, hm]
  exact ⟨htotal, hskipped⟩

theorem combine_eq_error_iff (kind : IncludeKind) (x : Trap) :
    (combine kind m).value = .error x ↔
      (UInt64.size ≤ sumOf QueryResult.totalResults m.entries ∨
        UInt64.size ≤ sumOf QueryResult.skippedResults m.entries) ∧ x = .additionOverflow := by
  have hfit : (UInt64.size ≤ sumOf QueryResult.totalResults m.entries ∨
      UInt64.size ≤ sumOf QueryResult.skippedResults m.entries) ↔ ¬SumsFit m := by
    rw [SumsFit]
    omega
  rw [hfit]
  by_cases h : SumsFit m
  · obtain ⟨r, hr, -⟩ := combine_of_sumsFit kind h
    simp [hr, h]
  · simp [combine_of_not_sumsFit kind h, h, eq_comm]

structure Combines (kind : IncludeKind) (m : OrderedMap ShardNumber QueryResult) : Prop where
  overflows : ∀ x, (combine kind m).value = .error x ↔
    (UInt64.size ≤ sumOf QueryResult.totalResults m.entries ∨
      UInt64.size ≤ sumOf QueryResult.skippedResults m.entries) ∧ x = .additionOverflow
  aggregates : sumOf QueryResult.totalResults m.entries < UInt64.size →
    sumOf QueryResult.skippedResults m.entries < UInt64.size →
      ∃ r, (combine kind m).value = .ok r ∧ Aggregates m r
  single : ∀ s q, m.entries = [(s, q)] →
    ∃ r, (combine kind m).value = .ok r ∧ Repeats s q r

theorem combine_aggregates (kind : IncludeKind) (m : OrderedMap ShardNumber QueryResult) :
    Combines kind m where
  overflows := combine_eq_error_iff kind
  aggregates := fun htotal hskipped => exists_aggregates kind ⟨htotal, hskipped⟩
  single := by
    intro s q hm
    obtain ⟨r, hr, haggregates⟩ := exists_aggregates kind (sumsFit_of_singleton hm)
    exact ⟨r, hr, haggregates.repeats hm⟩

end ShardRouting
