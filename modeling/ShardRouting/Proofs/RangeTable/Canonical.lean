import ShardRouting.Proofs.RangeTable.Ownership

namespace ShardRouting

namespace RangeTable

variable {space : UInt32} {t u : RangeTable}

theorem holder?_pred {b : Bucket} (hb : b ≠ 0) (hn : b ∉ t.map (·.start)) :
    t.holder? (b - 1) = t.holder? b := by
  rw [holder?, holder?]
  congr 1
  apply List.filter_congr
  intro r hr
  have hne : r.start ≠ b := fun h => hn (List.mem_map.mpr ⟨r, hr, h⟩)
  rw [decide_eq_decide, le_pred_iff hb]
  exact ⟨UInt32.le_of_lt, fun hle => UInt32.lt_of_le_of_ne hle hne⟩

theorem Covers.holder?_start (h : t.Covers space) {low high : RangeTable} {r : BucketRange}
    (ht : t = low ++ r :: high) : t.holder? r.start = some r := by
  have hasc : Ascending (low ++ r :: high) := ht ▸ h.ascending
  have hhigh := (List.pairwise_cons.mp (List.pairwise_append.mp hasc).2.1).1
  rw [ht, holder?_append, holder?_cons, (holder?_eq_none_iff high _).mpr hhigh,
    if_pos (UInt32.le_refl _), Option.none_or, Option.some_or]

theorem Covers.holder?_pred_start (h : t.Covers space) {low high : RangeTable} {q r : BucketRange}
    (ht : t = low ++ q :: r :: high) : t.holder? (r.start - 1) = some q := by
  have hasc : Ascending (low ++ q :: r :: high) := ht ▸ h.ascending
  obtain ⟨hq, hrh⟩ := List.pairwise_cons.mp (List.pairwise_append.mp hasc).2.1
  have hqr : q.start < r.start := hq r List.mem_cons_self
  have hz : r.start ≠ 0 := by
    intro hz
    rw [hz] at hqr
    exact absurd hqr (UInt32.not_lt.mpr UInt32.zero_le)
  have hpred : r.start - 1 < r.start := (le_pred_iff hz).mp (UInt32.le_refl _)
  have hlate : ∀ x ∈ r :: high, r.start - 1 < x.start := by
    intro x hx
    rcases List.mem_cons.mp hx with rfl | hx
    · exact hpred
    · exact UInt32.lt_trans hpred ((List.pairwise_cons.mp hrh).1 x hx)
  rw [ht, holder?_append, holder?_cons, (holder?_eq_none_iff _ _).mpr hlate,
    if_pos ((le_pred_iff hz).mpr hqr), Option.none_or, Option.some_or]

theorem Covers.mem_starts_iff (h : t.Covers space) (hj : t.Joined) (b : Bucket) :
    b ∈ t.map (·.start) ↔ b < space ∧ (b = 0 ∨ t.owner (b - 1) ≠ t.owner b) := by
  constructor
  · intro hb
    obtain ⟨r, hr, rfl⟩ := List.mem_map.mp hb
    refine ⟨h.inSpace r hr, ?_⟩
    obtain ⟨low, high, ht⟩ := List.append_of_mem hr
    rcases List.eq_nil_or_concat low with rfl | ⟨low, q, rfl⟩
    · have hf := h.first
      rw [ht, List.nil_append, List.head?_cons, Option.map_some, Option.some.injEq] at hf
      exact .inl hf
    · have ht' : t = low ++ q :: r :: high := by simpa using ht
      have hq := h.holder?_map_shard (r.start - 1)
      have hr := h.holder?_map_shard r.start
      rw [h.holder?_pred_start ht', Option.map_some, Option.some.injEq] at hq
      rw [h.holder?_start ht, Option.map_some, Option.some.injEq] at hr
      rw [← hq, ← hr]
      rw [Joined, ht'] at hj
      exact .inr (List.isChain_cons_cons.mp hj.right_of_append).1
  · rintro ⟨hb, hchange⟩
    by_contra hn
    rcases hchange with rfl | hne
    · obtain ⟨r, hr, hz⟩ := h.exists_zero
      exact hn (List.mem_map.mpr ⟨r, hr, hz⟩)
    · have hz : b ≠ 0 := by
        rintro rfl
        obtain ⟨r, hr, hz⟩ := h.exists_zero
        exact hn (List.mem_map.mpr ⟨r, hr, hz⟩)
      exact hne (h.owner_congr h (congrArg _ (holder?_pred hz hn)))

theorem Covers.eq_map_starts (h : t.Covers space) :
    t = (t.map (·.start)).map fun b => ⟨b, t.owner b⟩ := by
  rw [List.map_map]
  conv_lhs => rw [← List.map_id t]
  apply List.map_congr_left
  intro r hr
  obtain ⟨low, high, ht⟩ := List.append_of_mem hr
  have ho := h.holder?_map_shard r.start
  rw [h.holder?_start ht, Option.map_some, Option.some.injEq] at ho
  rw [id, Function.comp_apply, ← ho]

theorem Covers.eq_of_owner_eq (ht : t.Covers space) (hu : u.Covers space) (hjt : t.Joined)
    (hju : u.Joined) (h : ∀ b < space, t.owner b = u.owner b) : t = u := by
  have hstarts : t.map (·.start) = u.map (·.start) := by
    apply OrderedSet.eq_of_mem_iff (List.pairwise_map.mpr ht.ascending)
      (List.pairwise_map.mpr hu.ascending)
    intro b
    rw [ht.mem_starts_iff hjt, hu.mem_starts_iff hju]
    apply and_congr_right
    intro hb
    by_cases hz : b = 0
    · simp only [hz, true_or]
    · have hpred : b - 1 < space := UInt32.lt_trans ((le_pred_iff hz).mp (UInt32.le_refl _)) hb
      rw [h b hb, h (b - 1) hpred]
  rw [ht.eq_map_starts, hu.eq_map_starts, hstarts]
  apply List.map_congr_left
  intro b hb
  obtain ⟨r, hr, rfl⟩ := List.mem_map.mp hb
  rw [h _ (hu.inSpace r hr)]

end RangeTable

end ShardRouting
