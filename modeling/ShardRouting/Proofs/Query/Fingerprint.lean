import Mathlib.Data.Int.GCD
import Mathlib.Data.List.Sort
import Mathlib.Tactic.LinearCombination
import Mathlib.Tactic.Zify
import ShardRouting.Gather.Execute

/-!
Which changes the fingerprint of a combined answer shows. The step that takes in the next shard is
not injective in the running value: it merges two values a third of the word range apart. The change
of one shard is lost exactly when a later shard meets two such values.
-/

namespace ShardRouting

namespace Fingerprint

def spread (x : UInt64) : UInt64 := rotateLeft x 5 + x

def third : Nat := 0x5555555555555555

theorem toNat_rotateLeft_five (x : UInt64) :
    (rotateLeft x 5).toNat = 32 * (x.toNat % 2 ^ 59) + x.toNat / 2 ^ 59 := by
  have hx := x.toNat_lt
  have hlow : (x <<< 5).toNat = 2 ^ 5 * (x.toNat % 2 ^ 59) := by
    rw [UInt64.toNat_shiftLeft]
    simp [Nat.shiftLeft_eq]
    omega
  have hhigh : (x >>> (64 - 5)).toNat = x.toNat / 2 ^ 59 := by
    rw [UInt64.toNat_shiftRight]
    simp [Nat.shiftRight_eq_div_pow]
  rw [rotateLeft, UInt64.toNat_or, hlow, hhigh, ← Nat.two_pow_add_eq_or_of_lt (by omega)]

theorem exists_carry (x : UInt64) :
    ∃ h : Int, 0 ≤ h ∧ h < 32 ∧
      ((rotateLeft x 5).toNat : Int) + 3 * third * h = 32 * x.toNat := by
  have hlt := x.toNat_lt
  have h := toNat_rotateLeft_five x
  refine ⟨(x.toNat / 2 ^ 59 : Nat), by omega, by omega, ?_⟩
  simp only [third]
  omega

theorem sum_mod_three (x : UInt64) : ((rotateLeft x 5).toNat + x.toNat) % 3 = 0 := by
  obtain ⟨h, -, -, hx⟩ := exists_carry x
  simp only [third] at hx
  omega

theorem eq_or_wrapped {a b c d : UInt64} (h : a + b = c + d) :
    a.toNat + b.toNat = c.toNat + d.toNat ∨
      a.toNat + b.toNat = c.toNat + d.toNat + UInt64.size ∨
      c.toNat + d.toNat = a.toNat + b.toNat + UInt64.size := by
  rw [← UInt64.toNat_inj, UInt64.toNat_add, UInt64.toNat_add] at h
  simp only [UInt64.size]
  have ha := a.toNat_lt
  have hb := b.toNat_lt
  have hc := c.toNat_lt
  have hd := d.toNat_lt
  omega

theorem spread_eq_iff_sum (x y : UInt64) :
    spread x = spread y ↔
      (rotateLeft x 5).toNat + x.toNat = (rotateLeft y 5).toNat + y.toNat := by
  constructor
  · intro h
    -- both sums are multiples of three, and three does not divide the number of words
    have hx := sum_mod_three x
    have hy := sum_mod_three y
    rcases eq_or_wrapped h with h | h | h
    · exact h
    · simp only [UInt64.size] at h
      omega
    · simp only [UInt64.size] at h
      omega
  · intro h
    rw [spread, spread, ← UInt64.toNat_inj, UInt64.toNat_add, UInt64.toNat_add, h]

/-- The greater value lies whole thirds above the smaller one, and less than the rotated smaller one
is worth. -/
def Merges (x y : UInt64) : Prop :=
  ∃ k > 0, y.toNat = x.toNat + k * third ∧ k * third < (rotateLeft x 5).toNat

def Collide (x y : UInt64) : Prop := Merges x y ∨ Merges y x

theorem Merges.spread_eq {x y : UInt64} (h : Merges x y) : spread x = spread y := by
  obtain ⟨k, hk, hxy, hlt⟩ := h
  obtain ⟨hx, -, -, hx'⟩ := exists_carry x
  obtain ⟨hy, -, -, hy'⟩ := exists_carry y
  have hrx := (rotateLeft x 5).toNat_lt
  have hry := (rotateLeft y 5).toNat_lt
  have hmultiple : ((rotateLeft y 5).toNat : Int) + k * third - (rotateLeft x 5).toNat =
      3 * third * (hx - hy + 11 * k) := by
    zify at hxy
    linear_combination hy' - hx' + 32 * hxy
  have hzero : hx - hy + 11 * k = 0 := by
    simp only [third] at hmultiple hlt
    omega
  rw [hzero] at hmultiple
  rw [spread_eq_iff_sum]
  omega

theorem exists_thirds {a d : Int} (h : 11 * a = third * d) : ∃ k, d = 11 * k ∧ a = third * k := by
  have hdvd : (11 : Int) ∣ third * d := ⟨a, h.symm⟩
  obtain ⟨k, rfl⟩ := Int.dvd_of_dvd_mul_right_of_gcd_one hdvd (by decide)
  refine ⟨k, rfl, ?_⟩
  have hcancel : 11 * a = 11 * (third * k) := by linear_combination h
  exact Int.eq_of_mul_eq_mul_left (by decide) hcancel

theorem rotateLeft_five_ne_zero {x : UInt64} (h : x.toNat ≠ 0) : (rotateLeft x 5).toNat ≠ 0 := by
  intro hzero
  rw [toNat_rotateLeft_five] at hzero
  obtain ⟨hlow, hhigh⟩ := Nat.add_eq_zero_iff.mp hzero
  have hlt : x.toNat < 2 ^ 59 := by simpa using hhigh
  rw [Nat.mod_eq_of_lt hlt] at hlow
  exact h (by simpa using hlow)

theorem merges_of_spread_eq {x y : UInt64} (hlt : x.toNat < y.toNat) (h : spread x = spread y) :
    Merges x y := by
  rw [spread_eq_iff_sum] at h
  obtain ⟨hx, -, -, hx'⟩ := exists_carry x
  obtain ⟨hy, -, -, hy'⟩ := exists_carry y
  have hcarry : 11 * ((y.toNat : Int) - x.toNat) = third * (hy - hx) := by
    have hthree : 3 * (11 * ((y.toNat : Int) - x.toNat)) = 3 * (third * (hy - hx)) := by
      zify at h
      linear_combination hx' - hy' - h
    exact Int.eq_of_mul_eq_mul_left (by decide) hthree
  obtain ⟨k, -, hdiff⟩ := exists_thirds hcarry
  have hpos : 0 < k := by
    simp only [third] at hdiff
    omega
  obtain ⟨k, rfl⟩ := Int.eq_ofNat_of_zero_le hpos.le
  have hxy : y.toNat = x.toNat + k * third := by
    zify
    linear_combination hdiff
  -- what the greater value has more, its rotation has less; and only zero rotates to zero
  have hne := rotateLeft_five_ne_zero (x := y) (by omega)
  exact ⟨k, by omega, hxy, by omega⟩

theorem spread_eq_iff (x y : UInt64) : spread x = spread y ↔ x = y ∨ Collide x y := by
  constructor
  · intro h
    rcases Nat.lt_trichotomy x.toNat y.toNat with hlt | heq | hgt
    · exact .inr (.inl (merges_of_spread_eq hlt h))
    · exact .inl (UInt64.toNat_inj.mp heq)
    · exact .inr (.inr (merges_of_spread_eq hgt h.symm))
  · rintro (rfl | h | h)
    · rfl
    · exact h.spread_eq
    · exact h.spread_eq.symm

theorem combineHash_eq_iff (x y v : UInt64) :
    combineHash x v = combineHash y v ↔ x = y ∨ Collide x y := by
  rw [← spread_eq_iff]
  exact UInt64.xor_left_inj v

theorem combineHash_ne {x v w : UInt64} (h : v ≠ w) : combineHash x v ≠ combineHash x w := by
  intro heq
  exact h ((UInt64.xor_right_inj (spread x)).mp heq)

def folded (acc : UInt64) (l : List (ShardNumber × UInt64)) : UInt64 :=
  l.foldl (fun acc e => combineHash acc e.2) acc

theorem folded_eq_iff {x y : UInt64} (hne : x ≠ y) (l : List (ShardNumber × UInt64)) :
    folded x l = folded y l ↔
      ∃ mid e rest, l = mid ++ e :: rest ∧ Collide (folded x mid) (folded y mid) := by
  induction l generalizing x y with
  | nil => simp [folded, hne]
  | cons e rest ih =>
    change folded (combineHash x e.2) rest = folded (combineHash y e.2) rest ↔ _
    by_cases hc : Collide x y
    · have heq : combineHash x e.2 = combineHash y e.2 :=
        (combineHash_eq_iff x y e.2).mpr (.inr hc)
      rw [heq]
      exact iff_of_true rfl ⟨[], e, rest, rfl, hc⟩
    · have hstep : combineHash x e.2 ≠ combineHash y e.2 := by
        intro heq
        rcases (combineHash_eq_iff x y e.2).mp heq with h | h
        · exact hne h
        · exact hc h
      rw [ih hstep]
      constructor
      · rintro ⟨mid, d, after, rfl, h⟩
        exact ⟨e :: mid, d, after, rfl, h⟩
      · rintro ⟨mid, d, after, hl, h⟩
        cases mid with
        | nil => exact absurd h hc
        | cons c mid =>
          obtain ⟨rfl, rfl⟩ := List.cons.inj hl
          exact ⟨mid, d, after, rfl, h⟩

variable {etags l : List (ShardNumber × UInt64)}

theorem pairwise_mergeSort (hd : (etags.map Prod.fst).Nodup) :
    (etags.mergeSort fun a b => a.1 ≤ b.1).Pairwise (fun a b => a.1 < b.1) := by
  have htrans : ∀ a b c : ShardNumber × UInt64, decide (a.1 ≤ b.1) → decide (b.1 ≤ c.1) →
      decide (a.1 ≤ c.1) := by
    intro a b c hab hbc
    exact decide_eq_true (UInt32.le_trans (of_decide_eq_true hab) (of_decide_eq_true hbc))
  have htotal : ∀ a b : ShardNumber × UInt64, decide (a.1 ≤ b.1) || decide (b.1 ≤ a.1) := by
    intro a b
    simpa using UInt32.le_total a.1 b.1
  have hle := List.pairwise_mergeSort htrans htotal etags
  have hnodup := ((List.mergeSort_perm etags fun a b => a.1 ≤ b.1).map Prod.fst).nodup_iff.mpr hd
  refine (hle.and (List.pairwise_map.mp hnodup)).imp ?_
  rintro a b ⟨hab, hne⟩
  exact UInt32.lt_of_le_of_ne (of_decide_eq_true hab) hne

theorem combineEtags_eq_folded (hp : etags.Perm l) (hl : l.Pairwise (fun a b => a.1 < b.1)) :
    combineEtags etags = folded 0 l := by
  have hd : (etags.map Prod.fst).Nodup := by
    rw [(hp.map Prod.fst).nodup_iff]
    exact List.pairwise_map.mpr (hl.imp UInt32.ne_of_lt)
  have hsorted : (etags.mergeSort fun a b => a.1 ≤ b.1) = l := by
    apply List.Perm.eq_of_pairwise _ (pairwise_mergeSort hd) hl
      ((List.mergeSort_perm ..).trans hp)
    intro a b _ _ hab hba
    exact absurd (UInt32.lt_trans hab hba) (UInt32.lt_irrefl _)
  rw [combineEtags, hsorted, folded]

theorem combineEtags_singleton (s : ShardNumber) (e : UInt64) : combineEtags [(s, e)] = e := by
  simp [combineEtags, combineHash, rotateLeft]

def below (etags : List (ShardNumber × UInt64)) (t : ShardNumber) : List (ShardNumber × UInt64) :=
  etags.filter (·.1 < t)

def withEtag (etags : List (ShardNumber × UInt64)) (s : ShardNumber) (e : UInt64) :
    List (ShardNumber × UInt64) :=
  etags.map fun p => if p.1 = s then (s, e) else p

theorem combineEtags_below {before after : List (ShardNumber × UInt64)} {t : ShardNumber}
    {v : UInt64} (hp : etags.Perm (before ++ (t, v) :: after))
    (hl : (before ++ (t, v) :: after).Pairwise (fun a b => a.1 < b.1)) :
    combineEtags (below etags t) = folded 0 before := by
  obtain ⟨hbefore, hafter, hlt⟩ := List.pairwise_append.mp hl
  have hfilter : below (before ++ (t, v) :: after) t = before := by
    have hlow : before.filter (·.1 < t) = before := by
      apply List.filter_eq_self.mpr
      intro e he
      exact decide_eq_true (hlt e he (t, v) List.mem_cons_self)
    have hhigh : ((t, v) :: after).filter (·.1 < t) = [] := by
      apply List.filter_eq_nil_iff.mpr
      intro e he
      rcases List.mem_cons.mp he with rfl | he
      · simp
      · have hte := (List.pairwise_cons.mp hafter).1 e he
        simpa using UInt32.le_of_lt hte
    rw [below, List.filter_append, hlow, hhigh, List.append_nil]
  have hperm : (below etags t).Perm before := hfilter ▸ hp.filter _
  exact combineEtags_eq_folded hperm hbefore

theorem withEtag_append {before after : List (ShardNumber × UInt64)} {s : ShardNumber}
    {e : UInt64} (hl : (before ++ (s, e) :: after).Pairwise (fun a b => a.1 < b.1)) (e' : UInt64) :
    withEtag (before ++ (s, e) :: after) s e' = before ++ (s, e') :: after := by
  obtain ⟨-, hafter, hlt⟩ := List.pairwise_append.mp hl
  have hkeep : ∀ m : List (ShardNumber × UInt64), (∀ p ∈ m, p.1 ≠ s) → withEtag m s e' = m := by
    intro m hm
    have hmap : withEtag m s e' = m.map id := List.map_congr_left fun p hp => if_neg (hm p hp)
    rw [hmap, List.map_id]
  have hbefore := hkeep before fun p hp =>
    UInt32.ne_of_lt (hlt p hp (s, e) List.mem_cons_self)
  have hafter := hkeep after fun p hp =>
    (UInt32.ne_of_lt ((List.pairwise_cons.mp hafter).1 p hp)).symm
  have happend : withEtag (before ++ (s, e) :: after) s e' =
      withEtag before s e' ++ (if s = s then (s, e') else (s, e)) :: withEtag after s e' :=
    List.map_append
  rw [happend, hbefore, hafter, if_pos rfl]

theorem combineEtags_append {before after : List (ShardNumber × UInt64)} {s : ShardNumber}
    {e : UInt64} (hp : etags.Perm (before ++ (s, e) :: after))
    (hl : (before ++ (s, e) :: after).Pairwise (fun a b => a.1 < b.1)) :
    combineEtags etags = folded (combineHash (folded 0 before) e) after := by
  rw [combineEtags_eq_folded hp hl]
  simp [folded]

theorem combineEtags_below_append {before mid rest : List (ShardNumber × UInt64)}
    {s t : ShardNumber} {e v : UInt64}
    (hp : etags.Perm (before ++ (s, e) :: (mid ++ (t, v) :: rest)))
    (hl : (before ++ (s, e) :: (mid ++ (t, v) :: rest)).Pairwise (fun a b => a.1 < b.1)) :
    combineEtags (below etags t) = folded (combineHash (folded 0 before) e) mid := by
  have hassoc : before ++ (s, e) :: (mid ++ (t, v) :: rest) =
      (before ++ (s, e) :: mid) ++ (t, v) :: rest := by simp
  rw [hassoc] at hp hl
  rw [combineEtags_below hp hl]
  simp [folded]

/-- The change of one shard is lost exactly when a shard with a greater number meets, for the shards
below it, two values that collide; so a change of the greatest shard is never lost. -/
theorem combineEtags_withEtag_ne_iff (etags : List (ShardNumber × UInt64))
    (hd : (etags.map Prod.fst).Nodup) {s : ShardNumber} {e e' : UInt64} (hs : (s, e) ∈ etags)
    (he : e' ≠ e) :
    combineEtags (withEtag etags s e') ≠ combineEtags etags ↔
      ∀ t ∈ etags.map Prod.fst, s < t →
        ¬Collide (combineEtags (below etags t)) (combineEtags (below (withEtag etags s e') t)) := by
  have hl := pairwise_mergeSort hd
  have hp := (List.mergeSort_perm etags fun a b => a.1 ≤ b.1).symm
  obtain ⟨before, after, hsplit⟩ := List.append_of_mem (hp.mem_iff.mp hs)
  rw [hsplit] at hl hp
  have hp' : (withEtag etags s e').Perm (before ++ (s, e') :: after) :=
    withEtag_append hl e' ▸ hp.map _
  have hl' : (before ++ (s, e') :: after).Pairwise (fun a b => a.1 < b.1) := by
    rw [← List.pairwise_map (f := Prod.fst)] at hl ⊢
    simpa using hl
  have hne : combineHash (folded 0 before) e ≠ combineHash (folded 0 before) e' :=
    combineHash_ne he.symm
  rw [ne_comm, combineEtags_append hp hl, combineEtags_append hp' hl', Ne, folded_eq_iff hne]
  obtain ⟨-, hafter, hbefore⟩ := List.pairwise_append.mp hl
  constructor
  · intro hnone t ht hst hc
    obtain ⟨⟨t, v⟩, hmem, rfl⟩ := List.mem_map.mp ht
    have hmem : (t, v) ∈ after := by
      rcases List.mem_append.mp (hp.mem_iff.mp hmem) with h | h
      · exact absurd hst (UInt32.lt_asymm (hbefore _ h _ List.mem_cons_self))
      · rcases List.mem_cons.mp h with h | h
        · cases h
          exact absurd hst (UInt32.lt_irrefl _)
        · exact h
    obtain ⟨mid, rest, rfl⟩ := List.append_of_mem hmem
    rw [combineEtags_below_append hp hl, combineEtags_below_append hp' hl'] at hc
    exact hnone ⟨mid, (t, v), rest, rfl, hc⟩
  · rintro hnone ⟨mid, ⟨t, v⟩, rest, rfl, hc⟩
    have hmem : (t, v) ∈ etags := hp.mem_iff.mpr (by simp)
    have hst : s < t := (List.pairwise_cons.mp hafter).1 (t, v) (by simp)
    refine hnone t (List.mem_map_of_mem hmem) hst ?_
    rw [combineEtags_below_append hp hl, combineEtags_below_append hp' hl']
    exact hc

theorem combineEtags_withEtag_ne_three :
    let etags : List (ShardNumber × UInt64) := [(4, 33), (0, 11), (1, 22)]
    (etags.map Prod.fst).Nodup ∧ (0, 11) ∈ etags ∧ (12 : UInt64) ≠ 11 ∧
      (combineEtags (withEtag etags 0 12) ≠ combineEtags etags ↔
        ∀ t ∈ etags.map Prod.fst, 0 < t →
          ¬Collide (combineEtags (below etags t)) (combineEtags (below (withEtag etags 0 12) t))) :=
  ⟨by decide, by decide, by decide,
    combineEtags_withEtag_ne_iff [(4, 33), (0, 11), (1, 22)] (e := 11) (by decide) (by decide)
      (by decide)⟩

def held : List (ShardNumber × UInt64) := [(0, 192153584101141163), (1, 7)]

def changed : List (ShardNumber × UInt64) := withEtag held 0 6341068275337658368

theorem changed_etag_unnoticed :
    (held.map Prod.fst).Nodup ∧ (0, 192153584101141163) ∈ held ∧
      (6341068275337658368 : UInt64) ≠ 192153584101141163 ∧
      combineEtags changed = combineEtags held ∧
      ∀ r : CombinedResult, r.resultEtag = combineEtags changed →
        QueryOutcome.present (some (toString (combineEtags held))) r =
          .notModified (toString (combineEtags held)) := by
  have hheld : combineEtags held = folded 0 held := combineEtags_eq_folded (.refl _) (by decide)
  have hchanged : combineEtags changed = folded 0 changed :=
    combineEtags_eq_folded (.refl _) (by decide)
  have heq : combineEtags changed = combineEtags held := by
    rw [hheld, hchanged]
    decide
  refine ⟨by decide, by decide, by decide, heq, ?_⟩
  intro r hr
  rw [QueryOutcome.present, CombinedResult.etag, hr, heq, if_pos rfl]

end Fingerprint

end ShardRouting
