import Mathlib.Data.Finset.Card
import Mathlib.Data.List.Basic
import Mathlib.Order.Bounds.Basic
import ShardRouting.Proofs.Query.Arrivals
import ShardRouting.Proofs.Query.Totals

namespace ShardRouting

namespace Tally

def warnings (n : Nat) : Tally := { combineWarnings := n }

theorem warnings_add (m n : Nat) : warnings m + warnings n = warnings (m + n) := rfl

end Tally

namespace Combination

variable {kind : IncludeKind} {c c' : Combination}

def allDisagreements (c : Combination) (l : List (ShardNumber × QueryResult)) : Nat :=
  l.countP (fun e => e.2.indexName ≠ c.indexName) +
    l.countP (fun e => e.2.includedPaths ≠ c.includedPaths)

theorem allDisagreements_cons (c : Combination) (e : ShardNumber × QueryResult)
    (l : List (ShardNumber × QueryResult)) :
    c.allDisagreements (e :: l) = c.disagreements e.2 + c.allDisagreements l := by
  simp only [allDisagreements, disagreements, List.countP_cons, decide_eq_true_eq, ite_not]
  omega

structure Keeps (c c' : Combination) : Prop where
  indexName : c'.indexName = c.indexName
  includedPaths : c'.includedPaths = c.includedPaths

theorem Keeps.trans {c'' : Combination} (h : c.Keeps c') (h' : c'.Keeps c'') : c.Keeps c'' :=
  ⟨h'.indexName.trans h.indexName, h'.includedPaths.trans h.includedPaths⟩

theorem Keeps.allDisagreements_eq (h : c.Keeps c') (l : List (ShardNumber × QueryResult)) :
    c'.allDisagreements l = c.allDisagreements l := by
  rw [allDisagreements, allDisagreements, h.indexName, h.includedPaths]

theorem keeps_add {s : ShardNumber} {r : QueryResult} (h : (c.add kind s r).value = .ok c') :
    c.Keeps c' ∧ (c.add kind s r).tally = .warnings (c.disagreements r) := by
  rw [add] at h ⊢
  split at h
  · cases h
    exact ⟨⟨rfl, rfl⟩, rfl⟩
  · cases h
  · cases h

theorem keeps_addAll {l : List (ShardNumber × QueryResult)}
    (h : (c.addAll kind l).value = .ok c') :
    c.Keeps c' ∧ (c.addAll kind l).tally = .warnings (c.allDisagreements l) := by
  induction l generalizing c with
  | nil =>
    cases h
    exact ⟨⟨rfl, rfl⟩, rfl⟩
  | cons e rest ih =>
    obtain ⟨next, hnext, hrest⟩ := addAll_cons_eq_ok.mp h
    obtain ⟨hkeeps, hhead⟩ := keeps_add hnext
    obtain ⟨hkeeps', htail⟩ := ih hrest
    refine ⟨hkeeps.trans hkeeps', ?_⟩
    rw [addAll, Metered.tally_bind, hnext, hhead, htail, hkeeps.allDisagreements_eq,
      Tally.warnings_add, allDisagreements_cons]

theorem exists_tally_addAll (kind : IncludeKind) (c : Combination)
    (es : List (ShardNumber × QueryResult)) : ∃ n, (c.addAll kind es).tally = .warnings n := by
  induction es generalizing c with
  | nil => exact ⟨0, rfl⟩
  | cons e rest ih =>
    have hhead : ∃ n, (c.add kind e.1 e.2).tally = .warnings n := by
      rw [add]
      split
      · exact ⟨_, rfl⟩
      · exact ⟨0, rfl⟩
      · exact ⟨0, rfl⟩
    obtain ⟨n, hn⟩ := hhead
    rw [addAll, Metered.tally_bind, hn]
    cases (c.add kind e.1 e.2).value with
    | error x => exact ⟨n, rfl⟩
    | ok next =>
      obtain ⟨k, hk⟩ := ih next
      refine ⟨n + k, ?_⟩
      rw [← Tally.warnings_add, ← hk]

end Combination

theorem exists_tally_combine (kind : IncludeKind) (m : OrderedMap ShardNumber QueryResult) :
    ∃ n, (combine kind m).tally = .warnings n := by
  rw [Arrivals.combine_eq_finish]
  exact (Combination.opening m.values.head?).exists_tally_addAll kind m.entries

theorem keeps_combine {kind : IncludeKind} {m : OrderedMap ShardNumber QueryResult}
    {r : CombinedResult} (h : (combine kind m).value = .ok r) :
    r.indexName = (Combination.opening m.values.head?).indexName ∧
      r.includedPaths = (Combination.opening m.values.head?).includedPaths ∧
      (combine kind m).tally =
        .warnings ((Combination.opening m.values.head?).allDisagreements m.entries) := by
  obtain ⟨c, hadd, rfl⟩ := combine_eq_ok.mp h
  obtain ⟨hkeeps, htally⟩ := Combination.keeps_addAll hadd
  refine ⟨hkeeps.indexName, hkeeps.includedPaths, ?_⟩
  rw [Arrivals.combine_eq_finish, Arrivals.finish, Metered.tally_bind, htally]
  rfl

namespace Arrivals

def repeats (l : List (ShardNumber × QueryResult)) : Nat :=
  l.zipIdx.countP fun a => a.1.1 ∈ (l.take a.2).map Prod.fst

def dissenters {α : Type} [DecidableEq α] (f : QueryResult → α)
    (l : List (ShardNumber × QueryResult)) (s : ShardNumber) : Finset ShardNumber :=
  {t ∈ (l.map Prod.fst).toFinset | t ≠ s ∧ (first? l t).map f ≠ (first? l s).map f}

def combined (kind : IncludeKind) (l : List (ShardNumber × QueryResult)) :
    Metered (Except Trap CombinedResult) :=
  (empty kind).addAll l >>= fun kept => kept.2.finish

theorem first?_eq_none_iff {l : List (ShardNumber × QueryResult)} {s : ShardNumber} :
    first? l s = none ↔ s ∉ l.map Prod.fst := by
  rw [first?, Option.map_eq_none_iff, List.find?_eq_none, List.mem_map]
  simp only [decide_eq_true_eq, not_exists, not_and]

section Repeats

variable (a : Arrivals) (l : List (ShardNumber × QueryResult)) (e : ShardNumber × QueryResult)

theorem repeats_concat :
    repeats (l ++ [e]) = repeats l + if e.1 ∈ l.map Prod.fst then 1 else 0 := by
  have hearlier : l.zipIdx.countP (fun a => a.1.1 ∈ ((l ++ [e]).take a.2).map Prod.fst) =
      repeats l := by
    apply List.countP_congr
    intro a ha
    have hlt : a.2 < l.length := (List.mem_zipIdx' ha).1
    rw [List.take_append_of_le_length hlt.le]
  rw [repeats, List.zipIdx_append, List.countP_append, hearlier, List.zipIdx_singleton,
    List.countP_singleton, Nat.zero_add]
  simp only [List.take_left, decide_eq_true_eq]

theorem tally_addAll_concat : (a.addAll (l ++ [e])).tally =
    (a.addAll l).tally + ((a.addAll l).value.2.add e.1 e.2).tally := by
  induction l generalizing a with
  | nil =>
    have hone : (a.addAll [e]).tally = (a.add e.1 e.2).tally := rfl
    exact hone.trans (Tally.zero_add _).symm
  | cons d rest ih =>
    have hrun : ∀ l', (a.addAll (d :: l')).tally =
        (a.add d.1 d.2).tally + ((a.add d.1 d.2).value.2.addAll l').tally := fun _ => rfl
    rw [List.cons_append, hrun, hrun, ih, Tally.add_assoc]
    rfl

theorem tally_add_of_kept {s : ShardNumber} {q : QueryResult} (h : a.kept.get? s = some q)
    (r : QueryResult) : (a.add s r).tally = .warnings 1 := by
  have hcontains : a.kept.contains s = true := by rw [OrderedMap.contains, h, Option.isSome_some]
  rw [add, if_pos hcontains]
  rfl

theorem tally_addAll_empty (kind : IncludeKind) :
    ((empty kind).addAll l).tally = .warnings (repeats l) := by
  induction l using List.reverseRecOn with
  | nil => rfl
  | append_singleton l e ih =>
    have hkept : ((empty kind).addAll l).value.2.kept.get? e.1 = first? l e.1 := get?_addAll ..
    rw [tally_addAll_concat, ih, repeats_concat]
    cases hfirst : first? l e.1 with
    | none =>
      rw [tally_add_of_new _ (hkept.trans hfirst), if_neg (first?_eq_none_iff.mp hfirst)]
      rfl
    | some q =>
      have hmem : e.1 ∈ l.map Prod.fst := by
        by_contra hnot
        rw [first?_eq_none_iff.mpr hnot] at hfirst
        cases hfirst
      rw [tally_add_of_kept _ (hkept.trans hfirst), if_pos hmem, Tally.warnings_add]

end Repeats

inductive Resolved : List (ShardNumber × QueryResult) → CombinedResult → Tally → Prop
  | unanswered {r : CombinedResult} (indexName : r.indexName = "")
    (includedPaths : r.includedPaths = none) : Resolved [] r .zero
  | answered {l : List (ShardNumber × QueryResult)} {r : CombinedResult} {s : ShardNumber}
    {q : QueryResult} (lowest : IsLeast {t | t ∈ l.map Prod.fst} s) (kept : first? l s = some q)
    (indexName : r.indexName = q.indexName) (includedPaths : r.includedPaths = q.includedPaths) :
    Resolved l r <| .warnings <| repeats l + (dissenters (·.indexName) l s).card +
      (dissenters (·.includedPaths) l s).card

section Kept

variable {l : List (ShardNumber × QueryResult)} {m : OrderedMap ShardNumber QueryResult}
  {s t : ShardNumber} {q : QueryResult} (hm : ∀ t, m.get? t = first? l t)
include hm

theorem mem_entries_iff : (s, q) ∈ m.entries ↔ first? l s = some q := by
  rw [← hm, OrderedMap.get?_eq_some_iff]

theorem mem_shards_iff : s ∈ l.map Prod.fst ↔ ∃ q, (s, q) ∈ m.entries := by
  simp only [mem_entries_iff hm]
  rw [← Option.isSome_iff_exists, ← not_iff_not, Option.not_isSome_iff_eq_none, first?_eq_none_iff]

theorem mem_dissenters_iff {α : Type} [DecidableEq α] (f : QueryResult → α)
    (hs : first? l s = some q) :
    t ∈ dissenters f l s ↔ ∃ p, (t, p) ∈ m.entries ∧ f p ≠ f q := by
  rw [dissenters, Finset.mem_filter, List.mem_toFinset, mem_shards_iff hm]
  constructor
  · rintro ⟨⟨p, hp⟩, -, hdiffer⟩
    rw [(mem_entries_iff hm).mp hp, hs] at hdiffer
    exact ⟨p, hp, fun heq => hdiffer (congrArg some heq)⟩
  · rintro ⟨p, hp, hdiffer⟩
    have ht : first? l t = some p := (mem_entries_iff hm).mp hp
    refine ⟨⟨p, hp⟩, ?_, ?_⟩
    · rintro rfl
      rw [ht] at hs
      exact hdiffer (congrArg f (Option.some.inj hs))
    · rw [ht, hs]
      exact fun heq => hdiffer (Option.some.inj heq)

theorem card_dissenters {α : Type} [DecidableEq α] (f : QueryResult → α)
    (hs : first? l s = some q) :
    (dissenters f l s).card = m.entries.countP fun e => f e.2 ≠ f q := by
  have hset : dissenters f l s =
      ((m.entries.filter fun e => f e.2 ≠ f q).map Prod.fst).toFinset := by
    ext t
    rw [mem_dissenters_iff hm f hs]
    simp
  have hnodup : ((m.entries.filter fun e => f e.2 ≠ f q).map Prod.fst).Nodup :=
    List.pairwise_map.mpr ((m.ascending.filter _).imp UInt32.ne_of_lt)
  rw [hset, List.toFinset_card_of_nodup hnodup, List.length_map, List.countP_eq_length_filter]

theorem eq_nil_of_entries (h : m.entries = []) : l = [] := by
  apply List.eq_nil_iff_forall_not_mem.mpr
  intro e he
  obtain ⟨q, hq⟩ := (mem_shards_iff hm).mp (List.mem_map_of_mem he)
  rw [h] at hq
  cases hq

theorem isLeast_of_entries {rest : List (ShardNumber × QueryResult)}
    (h : m.entries = (s, q) :: rest) : IsLeast {t | t ∈ l.map Prod.fst} s := by
  have hasc := m.ascending
  rw [h] at hasc
  constructor
  · exact (mem_shards_iff hm).mpr ⟨q, by simp [h]⟩
  · intro t ht
    obtain ⟨p, hp⟩ := (mem_shards_iff hm).mp ht
    rw [h] at hp
    rcases List.mem_cons.mp hp with hp | hp
    · cases hp
      exact UInt32.le_refl _
    · exact UInt32.le_of_lt ((List.pairwise_cons.mp hasc).1 _ hp)

theorem resolved_of_combine {kind : IncludeKind} {r : CombinedResult}
    (h : (combine kind m).value = .ok r) :
    Resolved l r (.warnings (repeats l) + (combine kind m).tally) := by
  obtain ⟨hname, hpaths, htally⟩ := keeps_combine h
  rw [htally]
  cases hentries : m.entries with
  | nil =>
    obtain rfl := eq_nil_of_entries hm hentries
    rw [OrderedMap.values, hentries] at hname hpaths
    exact .unanswered hname hpaths
  | cons e rest =>
    obtain ⟨s, q⟩ := e
    have hkept : first? l s = some q := (mem_entries_iff hm).mp (by simp [hentries])
    have hhead : m.values.head? = some q := by rw [OrderedMap.values, hentries]; rfl
    have hnames := card_dissenters hm (·.indexName) hkept
    have hlists := card_dissenters hm (·.includedPaths) hkept
    rw [hhead] at hname hpaths ⊢
    rw [← hentries, Tally.warnings_add, Combination.allDisagreements, ← Nat.add_assoc,
      Combination.opening, Option.elim_some, Option.bind_some, ← hnames, ← hlists]
    exact .answered (isLeast_of_entries hm hentries) hkept hname hpaths

end Kept

/-- Where shards disagree the lowest one is right, and every repeated answer and every other shard
that disagrees with it on a value counts once. -/
theorem disagreement_resolved_and_counted (kind : IncludeKind)
    {l : List (ShardNumber × QueryResult)}
    (h : (combined kind l).value ≠ .error .additionOverflow) :
    ∃ r, (combined kind l).value = .ok r ∧ Resolved l r (combined kind l).tally := by
  have hkept : ∀ t, ((empty kind).addAll l).value.2.kept.get? t = first? l t :=
    fun t => get?_addAll ..
  generalize hm : ((empty kind).addAll l).value.2.kept = m at hkept
  have hfinish : ((empty kind).addAll l).value.2.finish = combine kind m := finish_addAll hkept
  have hvalue : (combined kind l).value = (combine kind m).value := by
    rw [combined, Metered.value_bind, hfinish]
  have htally : (combined kind l).tally = .warnings (repeats l) + (combine kind m).tally := by
    rw [combined, Metered.tally_bind, tally_addAll_empty, hfinish]
  rw [hvalue] at h ⊢
  rw [htally]
  by_cases hfit : SumsFit m
  · obtain ⟨r, hr, -⟩ := combine_of_sumsFit kind hfit
    exact ⟨r, hr, resolved_of_combine hkept hr⟩
  · exact absurd (combine_of_not_sumsFit kind hfit) h

def describing (indexName : String) (includedPaths : Option (List String)) : QueryResult where
  indexName := indexName
  includedPaths := includedPaths
  totalResults := 1
  skippedResults := 0
  isStale := false
  indexTimestamp := .epoch
  lastQueryTime := .epoch
  raftCommandIndex := none
  resultEtag := 1
  results := []
  includes := .empty

def disputed : List (ShardNumber × QueryResult) :=
  [(2, describing "Users/ByName" (some [])), (0, describing "Users/ByName" none),
    (2, describing "Users" none), (1, describing "Users" (some ["Manager"]))]

theorem disagreement_resolved_and_counted_disputed :
    (combined .raw disputed).value ≠ .error .additionOverflow ∧
      (∃ r, (combined .raw disputed).value = .ok r ∧
        Resolved disputed r (combined .raw disputed).tally) ∧
      (combined .raw disputed).tally = .warnings 4 :=
  have h : (combined .raw disputed).value ≠ .error .additionOverflow := nofun
  ⟨h, disagreement_resolved_and_counted .raw h, by decide⟩

end Arrivals

end ShardRouting
