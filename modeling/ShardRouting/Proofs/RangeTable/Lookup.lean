import ShardRouting.Topology.Layout

/-!
Three views of a range table that agree: the binary search (`position?`), the last range that
starts at a bucket or before (`holder?`), and the interval that a bucket lies in (`Holds`).
-/

namespace ShardRouting

theorem bisect_spec (p : Nat → Bool) (hp : ∀ i j, i ≤ j → p j = true → p i = true)
    (fuel lo len : Nat) (hf : len ≤ fuel) :
    (bisect p fuel lo len ≤ lo + len) ∧
      (∀ i, lo ≤ i → i < bisect p fuel lo len → p i = true) ∧
      (∀ i, bisect p fuel lo len ≤ i → i < lo + len → p i = false) := by
  induction fuel generalizing lo len with
  | zero => simp only [bisect]; refine ⟨?_, ?_, ?_⟩ <;> intros <;> omega
  | succ fuel ih =>
    rw [bisect]
    by_cases hz : len = 0
    · rw [if_pos hz]; refine ⟨?_, ?_, ?_⟩ <;> intros <;> omega
    rw [if_neg hz]
    cases hm : p (lo + len / 2) with
    | true =>
      rw [if_pos rfl]
      obtain ⟨hle, hlow, hhigh⟩ := ih (lo + len / 2 + 1) (len - len / 2 - 1) (by omega)
      refine ⟨by omega, ?_, fun i hi hlt => hhigh i hi (by omega)⟩
      intro i hi hlt
      by_cases hmid : i ≤ lo + len / 2
      · exact hp i _ hmid hm
      · exact hlow i (by omega) hlt
    | false =>
      rw [if_neg Bool.false_ne_true]
      obtain ⟨hle, hlow, hhigh⟩ := ih lo (len / 2) (by omega)
      refine ⟨by omega, hlow, ?_⟩
      intro i hi hlt
      by_cases hmid : i < lo + len / 2
      · exact hhigh i hi hmid
      · apply Bool.eq_false_iff.mpr
        intro ht
        have hmt := hp (lo + len / 2) i (by omega) ht
        rw [hm] at hmt
        exact Bool.false_ne_true hmt

namespace RangeTable

def holder? (t : RangeTable) (b : Bucket) : Option BucketRange :=
  (t.filter (·.start ≤ b)).getLast?

def scan? (b : Bucket) : RangeTable → Option Nat
  | [] => none
  | r :: rest =>
    match scan? b rest with
    | some i => some (i + 1)
    | none => if r.start ≤ b then some 0 else none

def LastUpTo (t : RangeTable) (b : Bucket) (i : Nat) : Prop :=
  (∃ r, t[i]? = some r ∧ r.start ≤ b) ∧ ∀ j r, i < j → t[j]? = some r → b < r.start

def Holds (space : UInt32) (t : RangeTable) (b : Bucket) (i : Nat) : Prop :=
  ∃ r, t[i]? = some r ∧ r.start ≤ b ∧ b < t.stop space i

def Ascending (t : RangeTable) : Prop := t.Pairwise (·.start < ·.start)

theorem Ascending.start_lt {t : RangeTable} (h : t.Ascending) {i j : Nat} (hij : i < j)
    {q r : BucketRange} (hq : t[i]? = some q) (hr : t[j]? = some r) : q.start < r.start := by
  obtain ⟨hi, rfl⟩ := List.getElem?_eq_some_iff.mp hq
  obtain ⟨hj, rfl⟩ := List.getElem?_eq_some_iff.mp hr
  exact List.pairwise_iff_getElem.mp h i j hi hj hij

theorem any_start_le_iff (t : RangeTable) (b : Bucket) (i : Nat) :
    (t[i]?.any fun r => decide (r.start ≤ b)) = true ↔ ∃ r, t[i]? = some r ∧ r.start ≤ b := by
  cases t[i]? <;> simp

theorem countUpTo_spec {t : RangeTable} (h : t.Ascending) (b : Bucket) :
    t.countUpTo b ≤ t.length ∧
      (∀ i r, t[i]? = some r → i < t.countUpTo b → r.start ≤ b) ∧
      (∀ i r, t[i]? = some r → t.countUpTo b ≤ i → b < r.start) := by
  have hp : ∀ i j : Nat, i ≤ j → (t[j]?.any fun r => decide (r.start ≤ b)) = true →
      (t[i]?.any fun r => decide (r.start ≤ b)) = true := by
    intro i j hij hj
    obtain ⟨r, hr, hrb⟩ := (any_start_le_iff t b j).mp hj
    have hjlt : j < t.length := (List.getElem?_eq_some_iff.mp hr).1
    have hi : t[i]? = some t[i] := List.getElem?_eq_getElem (by omega)
    rcases Nat.lt_or_eq_of_le hij with hlt | rfl
    · have hir := UInt32.le_of_lt (h.start_lt hlt hi hr)
      exact (any_start_le_iff t b i).mpr ⟨_, hi, UInt32.le_trans hir hrb⟩
    · exact hj
  obtain ⟨hle, hlow, hhigh⟩ := bisect_spec _ hp t.length 0 t.length (Nat.le_refl _)
  refine ⟨by simpa only [countUpTo, Nat.zero_add] using hle, ?_, ?_⟩
  · intro i r hr hi
    simpa [hr] using hlow i (Nat.zero_le i) hi
  · intro i r hr hi
    have hlt : i < t.length := (List.getElem?_eq_some_iff.mp hr).1
    simpa [hr] using hhigh i hi (by omega)

theorem position?_eq_some_iff (t : RangeTable) (b : Bucket) (i : Nat) :
    t.position? b = some i ↔ t.countUpTo b = i + 1 := by
  rw [position?]
  cases t.countUpTo b <;> simp

theorem position?_eq_some_iff_lastUpTo {t : RangeTable} (h : t.Ascending) (b : Bucket) (i : Nat) :
    t.position? b = some i ↔ t.LastUpTo b i := by
  obtain ⟨hle, hlow, hhigh⟩ := countUpTo_spec h b
  rw [position?_eq_some_iff]
  constructor
  · intro hk
    have hi : t[i]? = some t[i] := List.getElem?_eq_getElem (by omega)
    exact ⟨⟨_, hi, hlow i _ hi (by omega)⟩, fun j r hij hr => hhigh j r hr (by omega)⟩
  · rintro ⟨⟨r, hr, hrb⟩, hlast⟩
    have hi : i < t.countUpTo b := by
      apply Nat.lt_of_not_le
      intro hki
      exact absurd hrb (UInt32.not_le.mpr (hhigh i r hr hki))
    have hk : ¬i + 1 < t.countUpTo b := by
      intro hlt
      have hj : t[i + 1]? = some t[i + 1] := List.getElem?_eq_getElem (by omega)
      exact absurd (hlow _ _ hj hlt) (UInt32.not_le.mpr (hlast _ _ (Nat.lt_succ_self i) hj))
    omega

theorem lastUpTo_cons_zero (r : BucketRange) (rest : RangeTable) (b : Bucket) :
    LastUpTo (r :: rest) b 0 ↔ r.start ≤ b ∧ ∀ q ∈ rest, b < q.start := by
  simp only [LastUpTo, List.getElem?_cons_zero, Option.some.injEq, exists_eq_left']
  refine and_congr_right fun _ => ⟨?_, ?_⟩
  · intro h q hq
    obtain ⟨j, hj⟩ := List.mem_iff_getElem?.mp hq
    exact h (j + 1) q (Nat.zero_lt_succ j) hj
  · intro h j q hj hq
    obtain ⟨j, rfl⟩ : ∃ k, j = k + 1 := ⟨j - 1, by omega⟩
    exact h q (List.mem_of_getElem? hq)

theorem lastUpTo_cons_succ (r : BucketRange) (rest : RangeTable) (b : Bucket) (i : Nat) :
    LastUpTo (r :: rest) b (i + 1) ↔ LastUpTo rest b i := by
  simp only [LastUpTo, List.getElem?_cons_succ]
  refine and_congr_right fun _ => ⟨fun h j q hij hq => h (j + 1) q (by omega) hq, ?_⟩
  intro h j q hij hq
  obtain ⟨j, rfl⟩ : ∃ k, j = k + 1 := ⟨j - 1, by omega⟩
  exact h j q (by omega) hq

theorem scan?_eq_none_iff (t : RangeTable) (b : Bucket) :
    scan? b t = none ↔ ∀ r ∈ t, b < r.start := by
  induction t with
  | nil => simp [scan?]
  | cons r rest ih =>
    rw [scan?, List.forall_mem_cons, ← ih]
    cases scan? b rest <;> simp

theorem scan?_eq_some_iff_lastUpTo (t : RangeTable) (b : Bucket) (i : Nat) :
    scan? b t = some i ↔ t.LastUpTo b i := by
  induction t generalizing i with
  | nil => simp [scan?, LastUpTo]
  | cons r rest ih =>
    cases i with
    | zero =>
      rw [lastUpTo_cons_zero, ← scan?_eq_none_iff, scan?]
      cases scan? b rest <;> simp
    | succ i =>
      rw [lastUpTo_cons_succ, ← ih, scan?]
      cases scan? b rest <;> simp

theorem filter_eq_take {t : RangeTable} (h : t.Ascending) (b : Bucket) :
    t.filter (·.start ≤ b) = t.take (t.countUpTo b) := by
  obtain ⟨-, hlow, hhigh⟩ := countUpTo_spec h b
  have hsplit := List.filter_append (p := fun r : BucketRange => decide (r.start ≤ b))
    (t.take (t.countUpTo b)) (t.drop (t.countUpTo b))
  rw [List.take_append_drop] at hsplit
  have htake : (t.take (t.countUpTo b)).filter (·.start ≤ b) = t.take (t.countUpTo b) := by
    apply List.filter_eq_self.mpr
    intro r hr
    obtain ⟨i, hi⟩ := List.mem_iff_getElem?.mp hr
    rw [List.getElem?_take, Option.ite_none_right_eq_some] at hi
    simpa using hlow i r hi.2 hi.1
  have hdrop : (t.drop (t.countUpTo b)).filter (·.start ≤ b) = [] := by
    apply List.filter_eq_nil_iff.mpr
    intro r hr
    obtain ⟨i, hi⟩ := List.mem_iff_getElem?.mp hr
    rw [List.getElem?_drop] at hi
    simpa using hhigh _ r hi (Nat.le_add_right _ _)
  rw [hsplit, htake, hdrop, List.append_nil]

theorem holder?_eq {t : RangeTable} (h : t.Ascending) (b : Bucket) :
    t.holder? b = (t.position? b).bind (t[·]?) := by
  have hle := (countUpTo_spec h b).1
  rw [holder?, filter_eq_take h, List.getLast?_take, position?]
  cases hk : t.countUpTo b with
  | zero => rfl
  | succ i =>
    have hi : t[i]? = some t[i] := List.getElem?_eq_getElem (by omega)
    simp [hi]

theorem locate_eq_pure {t : RangeTable} {b : Bucket} {i : Nat} (h : t.position? b = some i) :
    t.locate b = pure i := by
  rw [locate, h]

theorem index_eq {t : RangeTable} {b : Bucket} {i : Nat} (h : t.position? b = some i) :
    t.index b = i := by
  rw [index, locate_eq_pure h, Metered.value_pure]

theorem stop_eq (space : UInt32) (t : RangeTable) (i : Nat) :
    t.stop space i = (t[i + 1]?.map (·.start)).getD space := by
  have hn : ∀ u : RangeTable, nextStart space u = (u.head?.map (·.start)).getD space := by
    intro u
    cases u <;> rfl
  rw [stop, hn, List.head?_drop]

theorem lt_stop_iff {t : RangeTable} (h : t.Ascending) {space : UInt32} {b : Bucket}
    (hb : b < space) (i : Nat) :
    b < t.stop space i ↔ ∀ j r, i < j → t[j]? = some r → b < r.start := by
  rw [stop_eq]
  cases hn : t[i + 1]? with
  | none =>
    simp only [Option.map_none, Option.getD_none, hb, true_iff]
    intro j r hij hr
    have hj := (List.getElem?_eq_some_iff.mp hr).1
    have hlen := List.getElem?_eq_none_iff.mp hn
    omega
  | some q =>
    simp only [Option.map_some, Option.getD_some]
    refine ⟨?_, fun hlast => hlast (i + 1) q (Nat.lt_succ_self i) hn⟩
    intro hq j r hij hr
    rcases Nat.lt_or_eq_of_le hij with hlt | rfl
    · exact UInt32.lt_trans hq (h.start_lt hlt hn hr)
    · exact Option.some.inj (hn.symm.trans hr) ▸ hq

theorem holds_iff_lastUpTo {t : RangeTable} (h : t.Ascending) {space : UInt32} {b : Bucket}
    (hb : b < space) (i : Nat) : t.Holds space b i ↔ t.LastUpTo b i := by
  rw [Holds, LastUpTo, ← lt_stop_iff h hb]
  constructor
  · rintro ⟨r, hr, hrb, hstop⟩
    exact ⟨⟨r, hr, hrb⟩, hstop⟩
  · rintro ⟨⟨r, hr, hrb⟩, hstop⟩
    exact ⟨r, hr, hrb, hstop⟩

namespace Covers

variable {space : UInt32} {t : RangeTable}

theorem exists_position (h : t.Covers space) (b : Bucket) : ∃ i, t.position? b = some i := by
  obtain ⟨-, -, hhigh⟩ := countUpTo_spec h.ascending b
  obtain ⟨r, hr, hz⟩ := Option.map_eq_some_iff.mp h.first
  have hpos : 0 < t.countUpTo b := by
    apply Nat.pos_of_ne_zero
    intro hk
    have hlt := hhigh 0 r (List.head?_eq_getElem? ▸ hr) (Nat.le_of_eq hk)
    rw [hz] at hlt
    exact absurd hlt (UInt32.not_lt.mpr UInt32.zero_le)
  exact ⟨t.countUpTo b - 1, (position?_eq_some_iff t b _).mpr (by omega)⟩

theorem position?_eq (h : t.Covers space) (b : Bucket) : t.position? b = some (t.index b) := by
  obtain ⟨i, hi⟩ := h.exists_position b
  rw [index_eq hi, hi]

theorem locate_eq (h : t.Covers space) (b : Bucket) : t.locate b = pure (t.index b) :=
  locate_eq_pure (h.position?_eq b)

theorem lastUpTo_iff (h : t.Covers space) (b : Bucket) (i : Nat) :
    t.LastUpTo b i ↔ i = t.index b := by
  rw [← position?_eq_some_iff_lastUpTo h.ascending, h.position?_eq, Option.some.injEq, eq_comm]

theorem holds_iff (h : t.Covers space) {b : Bucket} (hb : b < space) (i : Nat) :
    t.Holds space b i ↔ i = t.index b := by
  rw [holds_iff_lastUpTo h.ascending hb, h.lastUpTo_iff]

theorem stop_le (h : t.Covers space) (i : Nat) : t.stop space i ≤ space := by
  rw [stop_eq]
  cases hn : t[i + 1]? with
  | none => exact UInt32.le_refl _
  | some q => exact UInt32.le_of_lt (h.inSpace q (List.mem_of_getElem? hn))

theorem exists_holder (h : t.Covers space) (b : Bucket) :
    ∃ r, t[t.index b]? = some r ∧ r.start ≤ b ∧ t.holder? b = some r ∧ t.owner b = r.shard := by
  obtain ⟨⟨r, hr, hrb⟩, -⟩ := (h.lastUpTo_iff b _).mpr rfl
  refine ⟨r, hr, hrb, ?_, ?_⟩
  · rw [holder?_eq h.ascending, h.position?_eq, Option.bind_some, hr]
  · rw [owner, ownerAt, hr, Option.map_some, Option.getD_some]

theorem holder?_map_shard (h : t.Covers space) (b : Bucket) :
    (t.holder? b).map (·.shard) = some (t.owner b) := by
  obtain ⟨r, -, -, hr, ho⟩ := h.exists_holder b
  rw [hr, ho, Option.map_some]

end Covers

end RangeTable

end ShardRouting
