import ShardRouting.Proofs.Query.Arrivals

namespace ShardRouting

theorem addWords_of_lt {a b : UInt64} (h : a.toNat + b.toNat < UInt64.size) :
    addWords a b = .ok (a + b) ∧ (a + b).toNat = a.toNat + b.toNat := by
  have hsum : addWords a b = .ok (a + b) := by rw [addWords, if_pos h]
  exact ⟨hsum, (addWords_eq_ok.mp hsum).symm⟩

theorem addWords_of_le {a b : UInt64} (h : UInt64.size ≤ a.toNat + b.toNat) :
    addWords a b = .error .additionOverflow := by
  rw [addWords, if_neg (Nat.not_lt.mpr h)]

def sumOf (f : QueryResult → UInt64) : List (ShardNumber × QueryResult) → Nat
  | [] => 0
  | e :: rest => (f e.2).toNat + sumOf f rest

theorem sumOf_append (f : QueryResult → UInt64) (l m : List (ShardNumber × QueryResult)) :
    sumOf f (l ++ m) = sumOf f l + sumOf f m := by
  induction l with
  | nil => simp [sumOf]
  | cons e rest ih => simp only [List.cons_append, sumOf, ih, Nat.add_assoc]

namespace Combination

variable (kind : IncludeKind) (c : Combination)

def HasRoom (l : List (ShardNumber × QueryResult)) : Prop :=
  c.totalResults.toNat + sumOf QueryResult.totalResults l < UInt64.size ∧
    c.skippedResults.toNat + sumOf QueryResult.skippedResults l < UInt64.size

structure Extends (l : List (ShardNumber × QueryResult)) (c' : Combination) : Prop where
  totalResults : c'.totalResults.toNat = c.totalResults.toNat + sumOf QueryResult.totalResults l
  skippedResults :
    c'.skippedResults.toNat = c.skippedResults.toNat + sumOf QueryResult.skippedResults l
  etags : c'.etags = c.etags ++ l.map fun e => (e.1, e.2.resultEtag)

variable {c}

theorem Extends.trans {c' c'' : Combination} {l m : List (ShardNumber × QueryResult)}
    (h : c.Extends l c') (h' : c'.Extends m c'') : c.Extends (l ++ m) c'' where
  totalResults := by
    rw [h'.totalResults, h.totalResults, sumOf_append, Nat.add_assoc]
  skippedResults := by
    rw [h'.skippedResults, h.skippedResults, sumOf_append, Nat.add_assoc]
  etags := by rw [h'.etags, h.etags, List.map_append, List.append_assoc]

theorem add_of_hasRoom {s : ShardNumber} {r : QueryResult} (h : c.HasRoom [(s, r)]) :
    ∃ c', (c.add kind s r).value = .ok c' ∧ c.Extends [(s, r)] c' := by
  obtain ⟨ht, hs⟩ := h
  simp only [sumOf, Nat.add_zero] at ht hs
  obtain ⟨htotal, hnat⟩ := addWords_of_lt ht
  obtain ⟨hskipped, hnat'⟩ := addWords_of_lt hs
  rw [add, htotal, hskipped]
  exact ⟨_, rfl, by simpa [sumOf] using hnat, by simpa [sumOf] using hnat', rfl⟩

theorem add_of_not_hasRoom {s : ShardNumber} {r : QueryResult} (h : ¬c.HasRoom [(s, r)]) :
    (c.add kind s r).value = .error .additionOverflow := by
  simp only [HasRoom, sumOf, Nat.add_zero] at h
  rw [add]
  by_cases ht : c.totalResults.toNat + r.totalResults.toNat < UInt64.size
  · rw [(addWords_of_lt ht).1, addWords_of_le (by omega)]
    rfl
  · rw [addWords_of_le (by omega)]
    rfl

theorem Extends.hasRoom_iff {c' : Combination} {l m : List (ShardNumber × QueryResult)}
    (h : c.Extends l c') : c'.HasRoom m ↔ c.HasRoom (l ++ m) := by
  rw [HasRoom, HasRoom, h.totalResults, h.skippedResults, sumOf_append, sumOf_append,
    Nat.add_assoc, Nat.add_assoc]

theorem HasRoom.left {l m : List (ShardNumber × QueryResult)} (h : c.HasRoom (l ++ m)) :
    c.HasRoom l := by
  rw [HasRoom, sumOf_append, sumOf_append] at h
  rw [HasRoom]
  omega

theorem addAll_cons_eq_ok {kind : IncludeKind} {c' : Combination} {e : ShardNumber × QueryResult}
    {rest : List (ShardNumber × QueryResult)} :
    (c.addAll kind (e :: rest)).value = .ok c' ↔
      ∃ next, (c.add kind e.1 e.2).value = .ok next ∧ (next.addAll kind rest).value = .ok c' := by
  simp only [addAll, Metered.value_bind]
  cases (c.add kind e.1 e.2).value with
  | error trap => simp
  | ok next => simp

theorem addAll_of_hasRoom {l : List (ShardNumber × QueryResult)} (h : c.HasRoom l) :
    ∃ c', (c.addAll kind l).value = .ok c' ∧ c.Extends l c' := by
  induction l generalizing c with
  | nil => exact ⟨c, rfl, by simp [sumOf], by simp [sumOf], by simp⟩
  | cons e rest ih =>
    obtain ⟨s, r⟩ := e
    change c.HasRoom ([(s, r)] ++ rest) at h
    obtain ⟨c', hadd, hext⟩ := add_of_hasRoom kind h.left
    obtain ⟨c'', hrest, hext'⟩ := ih (hext.hasRoom_iff.mpr h)
    exact ⟨c'', addAll_cons_eq_ok.mpr ⟨c', hadd, hrest⟩, hext.trans hext'⟩

theorem addAll_of_not_hasRoom {l : List (ShardNumber × QueryResult)}
    (hc : c.HasRoom []) (h : ¬c.HasRoom l) :
    (c.addAll kind l).value = .error .additionOverflow := by
  induction l generalizing c with
  | nil => exact absurd hc h
  | cons e rest ih =>
    obtain ⟨s, r⟩ := e
    change ¬c.HasRoom ([(s, r)] ++ rest) at h
    by_cases hroom : c.HasRoom [(s, r)]
    · obtain ⟨c', hadd, hext⟩ := add_of_hasRoom kind hroom
      have hc' : c'.HasRoom [] := hext.hasRoom_iff.mpr (by simpa using hroom)
      have hrest := ih hc' fun hm => h (hext.hasRoom_iff.mp hm)
      simp only [addAll, Metered.value_bind, hadd, hrest]
    · simp only [addAll, Metered.value_bind, add_of_not_hasRoom kind hroom, Metered.value_pure]

end Combination

def SumsFit (m : OrderedMap ShardNumber QueryResult) : Prop :=
  sumOf QueryResult.totalResults m.entries < UInt64.size ∧
    sumOf QueryResult.skippedResults m.entries < UInt64.size

variable (kind : IncludeKind) {m : OrderedMap ShardNumber QueryResult}

theorem hasRoom_opening_iff (first : Option QueryResult) :
    (Combination.opening first).HasRoom m.entries ↔ SumsFit m := by
  simp [Combination.HasRoom, Combination.opening, SumsFit]

theorem combine_eq_ok {kind : IncludeKind} {r : CombinedResult} :
    (combine kind m).value = .ok r ↔
      ∃ c, ((Combination.opening m.values.head?).addAll kind m.entries).value = .ok c ∧
        c.finish = r := by
  simp only [Arrivals.combine_eq_finish, Arrivals.finish, Metered.value_bind, Metered.value_pure]
  cases ((Combination.opening m.values.head?).addAll kind m.entries).value with
  | error trap => simp [Except.map]
  | ok c => simp [Except.map]

theorem addAll_of_sumsFit (h : SumsFit m) :
    ∃ c, ((Combination.opening m.values.head?).addAll kind m.entries).value = .ok c ∧
      (Combination.opening m.values.head?).Extends m.entries c :=
  Combination.addAll_of_hasRoom kind ((hasRoom_opening_iff _).mpr h)

theorem shards_finish {first : Option QueryResult} {c : Combination}
    (h : (Combination.opening first).Extends m.entries c) : c.finish.shards = m.keys.toList := by
  have hetags : c.etags = m.entries.map fun e => (e.1, e.2.resultEtag) := h.etags
  simp [Combination.finish, hetags, OrderedMap.keys]

theorem combine_of_sumsFit (h : SumsFit m) :
    ∃ r, (combine kind m).value = .ok r ∧ r.shards = m.keys.toList := by
  obtain ⟨c, hadd, hext⟩ := addAll_of_sumsFit kind h
  exact ⟨c.finish, combine_eq_ok.mpr ⟨c, hadd, rfl⟩, shards_finish hext⟩

theorem combine_of_not_sumsFit (h : ¬SumsFit m) :
    (combine kind m).value = .error .additionOverflow := by
  have hroom : ¬(Combination.opening m.values.head?).HasRoom m.entries :=
    fun hroom => h ((hasRoom_opening_iff _).mp hroom)
  have hopening : (Combination.opening m.values.head?).HasRoom [] := by
    simp [Combination.HasRoom, Combination.opening, sumOf, UInt64.size]
  simp only [Arrivals.combine_eq_finish, Arrivals.finish, Metered.value_bind, Metered.value_pure,
    Combination.addAll_of_not_hasRoom kind hopening hroom]
  rfl

end ShardRouting
