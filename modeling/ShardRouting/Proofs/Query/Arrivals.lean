import ShardRouting.Query.Combination

namespace ShardRouting

namespace Arrivals

def first? (l : List (ShardNumber × QueryResult)) (s : ShardNumber) : Option QueryResult :=
  (l.find? (·.1 = s)).map Prod.snd

theorem first?_cons (s : ShardNumber) (r : QueryResult) (l : List (ShardNumber × QueryResult))
    (t : ShardNumber) : first? ((s, r) :: l) t = if t = s then some r else first? l t := by
  by_cases h : t = s
  · simp [first?, h]
  · simp [first?, h, Ne.symm h]

theorem first?_eq_some_iff {l : List (ShardNumber × QueryResult)} (hd : (l.map Prod.fst).Nodup)
    (s : ShardNumber) (r : QueryResult) : first? l s = some r ↔ (s, r) ∈ l := by
  induction l with
  | nil => simp [first?]
  | cons e rest ih =>
    obtain ⟨t, q⟩ := e
    obtain ⟨hnew, hrest⟩ := List.nodup_cons.mp hd
    rw [first?_cons, List.mem_cons, Prod.mk.injEq]
    by_cases h : s = t
    · have hnone : (s, r) ∉ rest := by
        intro hmem
        exact hnew (List.mem_map.mpr ⟨(s, r), hmem, h⟩)
      subst h
      simp [hnone, eq_comm]
    · simp [h, ih hrest]

theorem first?_perm {l m : List (ShardNumber × QueryResult)} (hd : (l.map Prod.fst).Nodup)
    (h : l.Perm m) (s : ShardNumber) : first? l s = first? m s := by
  have hm : (m.map Prod.fst).Nodup := (h.map Prod.fst).nodup_iff.mp hd
  apply Option.ext
  intro r
  rw [first?_eq_some_iff hd, first?_eq_some_iff hm, h.mem_iff]

variable (a : Arrivals)

theorem value_add (s : ShardNumber) (r : QueryResult) :
    (a.add s r).value = (!a.kept.contains s, { a with kept := a.kept.insertNew s r }) := by
  rw [add, OrderedMap.insertNew]
  cases a.kept.contains s with
  | true => rfl
  | false => rfl

theorem tally_add_of_new {s : ShardNumber} (h : a.kept.get? s = none) (r : QueryResult) :
    (a.add s r).tally = .zero := by
  rw [add, OrderedMap.contains_eq_false_iff.mpr h]
  rfl

theorem kind_addAll (l : List (ShardNumber × QueryResult)) : (a.addAll l).value.2.kind = a.kind := by
  induction l generalizing a with
  | nil => rfl
  | cons e rest ih =>
    have hstep : (a.add e.1 e.2).value.2.kind = a.kind := by rw [value_add]
    rw [← hstep]
    exact ih _

theorem get?_addAll (l : List (ShardNumber × QueryResult)) (t : ShardNumber) :
    (a.addAll l).value.2.kept.get? t = (a.kept.get? t).or (first? l t) := by
  induction l generalizing a with
  | nil => simp [addAll, first?]
  | cons e rest ih =>
    obtain ⟨s, r⟩ := e
    have hstep : (a.add s r).value.2.kept.get? t =
        (a.kept.get? t).or (if t = s then some r else none) := by
      rw [value_add]
      exact OrderedMap.get?_insertNew ..
    have hrun : (a.addAll ((s, r) :: rest)).value.2.kept.get? t =
        ((a.add s r).value.2.kept.get? t).or (first? rest t) := ih _
    rw [hrun, hstep, first?_cons]
    by_cases h : t = s
    · simp [h]
    · simp [h]

theorem length_addAll (l : List (ShardNumber × QueryResult)) :
    (a.addAll l).value.1.length = l.length := by
  induction l generalizing a with
  | nil => rfl
  | cons e rest ih => exact congrArg (· + 1) (ih (a.add e.1 e.2).value.2)

theorem getElem?_addAll (before : List (ShardNumber × QueryResult)) (s : ShardNumber)
    (r : QueryResult) (after : List (ShardNumber × QueryResult)) :
    (a.addAll (before ++ (s, r) :: after)).value.1[before.length]? =
      some (!a.kept.contains s && decide (s ∉ before.map Prod.fst)) := by
  induction before generalizing a with
  | nil =>
    have hhead : (a.addAll ((s, r) :: after)).value.1[0]? = some (a.add s r).value.1 := rfl
    simp [hhead, value_add]
  | cons e rest ih =>
    obtain ⟨t, q⟩ := e
    have hrun : (a.addAll ((t, q) :: rest ++ (s, r) :: after)).value.1[rest.length + 1]? =
        ((a.add t q).value.2.addAll (rest ++ (s, r) :: after)).value.1[rest.length]? := rfl
    have hkept : (a.add t q).value.2.kept.contains s = (a.kept.contains s || decide (s = t)) := by
      rw [value_add, OrderedMap.contains, OrderedMap.get?_insertNew, OrderedMap.contains]
      by_cases h : s = t
      · simp [h]
      · simp [h]
    have hmem : s ∈ ((t, q) :: rest).map Prod.fst ↔ s = t ∨ s ∈ rest.map Prod.fst := List.mem_cons
    rw [List.length_cons, hrun, ih, hkept]
    simp only [hmem]
    by_cases h : s = t
    · simp [h]
    · simp [h]

theorem tally_addAll {l : List (ShardNumber × QueryResult)} (hd : (l.map Prod.fst).Nodup)
    (hnew : ∀ e ∈ l, a.kept.get? e.1 = none) : (a.addAll l).tally = .zero := by
  induction l generalizing a with
  | nil => rfl
  | cons e rest ih =>
    obtain ⟨s, r⟩ := e
    obtain ⟨hs, hrest⟩ := List.nodup_cons.mp hd
    have hstep := a.tally_add_of_new (hnew (s, r) List.mem_cons_self) r
    have htail : ((a.add s r).value.2.addAll rest).tally = .zero := by
      apply ih _ hrest
      intro e he
      have hne : e.1 ≠ s := fun heq => hs (List.mem_map.mpr ⟨e, he, heq⟩)
      rw [value_add, OrderedMap.get?_insertNew, hnew e (List.mem_cons_of_mem _ he), if_neg hne]
      rfl
    have hrun : (a.addAll ((s, r) :: rest)).tally =
        (a.add s r).tally + (((a.add s r).value.2.addAll rest).tally + .zero) := rfl
    rw [hrun, hstep, htail]
    rfl

section Combine

variable {kind : IncludeKind} {m : OrderedMap ShardNumber QueryResult}

theorem value_addAll_of_first {l : List (ShardNumber × QueryResult)}
    (h : ∀ s, m.get? s = first? l s) : ((empty kind).addAll l).value.2 = ⟨kind, m⟩ := by
  have hkept : ((empty kind).addAll l).value.2.kept = m := by
    apply OrderedMap.ext_get?
    intro s
    rw [get?_addAll, h s]
    rfl
  have hkind : ((empty kind).addAll l).value.2.kind = kind := kind_addAll _ l
  exact congr (congrArg mk hkind) hkept

theorem combine_eq_finish : combine kind m = finish ⟨kind, m⟩ := by
  have hvalue : ((empty kind).addAll m.entries).value.2 = ⟨kind, m⟩ :=
    value_addAll_of_first fun _ => rfl
  have htally : ((empty kind).addAll m.entries).tally = .zero := by
    apply tally_addAll
    · exact List.pairwise_map.mpr (m.ascending.imp UInt32.ne_of_lt)
    · intro e _
      rfl
  change (⟨((empty kind).addAll m.entries).value.2.finish.value,
    ((empty kind).addAll m.entries).tally + ((empty kind).addAll m.entries).value.2.finish.tally⟩ :
      Metered _) = _
  rw [hvalue, htally, Tally.zero_add]

theorem finish_addAll {l : List (ShardNumber × QueryResult)} (h : ∀ s, m.get? s = first? l s) :
    ((empty kind).addAll l).value.2.finish = combine kind m := by
  rw [value_addAll_of_first h, combine_eq_finish]

end Combine

/-- An answer is kept exactly if it is the first of its shard, the outcome is the combination of
those first answers, and answers of distinct shards may come in any order. -/
theorem arrival_order_irrelevant (kind : IncludeKind) (l : List (ShardNumber × QueryResult)) :
    ((empty kind).addAll l).value.1.length = l.length ∧
      (∀ before s r after, l = before ++ (s, r) :: after →
        ((empty kind).addAll l).value.1[before.length]? =
          some (decide (s ∉ before.map Prod.fst))) ∧
      (∃ m : OrderedMap ShardNumber QueryResult, (∀ s, m.get? s = first? l s) ∧
        ((empty kind).addAll l).value.2.finish = combine kind m) ∧
      ((l.map Prod.fst).Nodup → ∀ l', l.Perm l' →
        ((empty kind).addAll l').value.2.finish = ((empty kind).addAll l).value.2.finish) := by
  have hfirst : ∀ s, ((empty kind).addAll l).value.2.kept.get? s = first? l s := by
    intro s
    rw [get?_addAll]
    rfl
  have hfinish : _ = combine kind _ := finish_addAll hfirst
  refine ⟨length_addAll _ l, ?_, ⟨_, hfirst, hfinish⟩, ?_⟩
  · rintro before s r after rfl
    rw [getElem?_addAll]
    rfl
  · intro hd l' hperm
    have hfirst' : ∀ s, ((empty kind).addAll l).value.2.kept.get? s = first? l' s := by
      intro s
      rw [hfirst s, first?_perm hd hperm]
    rw [finish_addAll hfirst', hfinish]

end Arrivals

end ShardRouting
