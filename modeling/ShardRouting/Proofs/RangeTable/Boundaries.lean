import ShardRouting.Proofs.RangeTable.Canonical

namespace ShardRouting

namespace RangeTable

inductive EndsAt (space : UInt32) (t : RangeTable) (b : Bucket) : UInt32 → Prop
  | next {r : BucketRange} (mem : r ∈ t) (lt : b < r.start)
    (first : ∀ q ∈ t, b < q.start → r.start ≤ q.start) : EndsAt space t b r.start
  | space (last : ∀ q ∈ t, q.start ≤ b) : EndsAt space t b space

variable {space : UInt32} {t u : RangeTable} {b : Bucket}

theorem Covers.lt_start_iff (h : t.Covers space) {j : Nat} {q : BucketRange}
    (hq : t[j]? = some q) : b < q.start ↔ t.index b < j := by
  obtain ⟨⟨r, hr, hrb⟩, hlast⟩ := (h.lastUpTo_iff b _).mpr rfl
  constructor
  · intro hbq
    by_contra hle
    have hqb : q.start ≤ b := by
      rcases Nat.lt_or_eq_of_le (Nat.not_lt.mp hle) with hlt | rfl
      · have hqr := Ascending.start_lt h.ascending hlt hq hr
        exact UInt32.le_trans (UInt32.le_of_lt hqr) hrb
      · rw [hr] at hq
        exact Option.some.inj hq ▸ hrb
    exact UInt32.not_lt.mpr hqb hbq
  · intro hlt
    exact hlast j q hlt hq

theorem Covers.endsAt_stop (h : t.Covers space) (b : Bucket) :
    t.EndsAt space b (t.stop space (t.index b)) := by
  rw [stop_eq]
  cases hn : t[t.index b + 1]? with
  | none =>
    apply EndsAt.space
    intro q hq
    obtain ⟨j, hj⟩ := List.mem_iff_getElem?.mp hq
    have hlen := List.getElem?_eq_none_iff.mp hn
    have hjlt := (List.getElem?_eq_some_iff.mp hj).1
    apply UInt32.not_lt.mp
    rw [h.lt_start_iff hj]
    omega
  | some r =>
    refine EndsAt.next (List.mem_of_getElem? hn) ?_ ?_
    · rw [h.lt_start_iff hn]
      omega
    · intro q hq hbq
      obtain ⟨j, hj⟩ := List.mem_iff_getElem?.mp hq
      rw [h.lt_start_iff hj] at hbq
      rcases Nat.lt_or_eq_of_le (Nat.succ_le_of_lt hbq) with hlt | rfl
      · exact UInt32.le_of_lt (Ascending.start_lt h.ascending hlt hn hj)
      · rw [hn] at hj
        exact Option.some.inj hj ▸ UInt32.le_refl _

theorem Covers.owner_eq_of_lt_stop (h : t.Covers space) {c : Bucket} (hbc : b ≤ c)
    (hc : c < t.stop space (t.index b)) : t.owner c = t.owner b := by
  obtain ⟨r, hr, hrb, -, -⟩ := h.exists_holder b
  have hspace := UInt32.lt_of_lt_of_le hc (h.stop_le _)
  have hindex := (h.holds_iff hspace _).mp ⟨r, hr, UInt32.le_trans hrb hbc, hc⟩
  rw [owner, owner, hindex]

theorem split_sublist (t : RangeTable) (b : Bucket) (s : ShardNumber) :
    t.Sublist (t.split b s) := by
  have hparts := List.takeWhile_append_dropWhile (p := fun r => decide (r.start < b)) (l := t)
  conv_lhs => rw [← hparts]
  exact (List.sublist_cons_self _ _).append_left _

theorem length_split (t : RangeTable) (b : Bucket) (s : ShardNumber) :
    (t.split b s).length = t.length + 1 := by
  have hparts := List.takeWhile_append_dropWhile (p := fun r => decide (r.start < b)) (l := t)
  conv_rhs => rw [← hparts, List.length_append]
  rw [split, List.length_append, List.length_cons, Nat.add_assoc]

theorem Covers.merge_eq_of_joined (h : t.Covers space) (hj : t.Joined) : t.merge = t :=
  h.merge.eq_of_owner_eq h (joined_merge t) hj fun b _ => h.owner_merge b

theorem Covers.merge_eq_merge (ht : t.Covers space) (hu : u.Covers space)
    (h : ∀ b < space, t.owner b = u.owner b) : t.merge = u.merge := by
  apply ht.merge.eq_of_owner_eq hu.merge (joined_merge t) (joined_merge u)
  intro b hb
  rw [ht.owner_merge, hu.owner_merge, h b hb]

end RangeTable

end ShardRouting
