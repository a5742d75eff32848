import Mathlib.Order.Bounds.Basic
import ShardRouting.Proofs.Query.Fingerprint

namespace ShardRouting

namespace Fingerprint

variable {etags before after : List (ShardNumber × UInt64)} {s : ShardNumber} {e : UInt64}

theorem toBitVec_combineHash (acc v : UInt64) :
    (combineHash acc v).toBitVec = (acc.toBitVec.rotateLeft 5 + acc.toBitVec) ^^^ v.toBitVec :=
  rfl

theorem combineHash_bijective (acc : UInt64) : Function.Bijective (combineHash acc) := by
  have hinvolutive : Function.Involutive (combineHash acc) := by
    intro v
    change spread acc ^^^ (spread acc ^^^ v) = v
    rw [← UInt64.xor_assoc, UInt64.xor_self, UInt64.zero_xor]
  exact hinvolutive.bijective

theorem exists_ordered (hd : (etags.map Prod.fst).Nodup) :
    ∃ l, etags.Perm l ∧ l.Pairwise (fun a b => a.1 < b.1) :=
  ⟨_, (List.mergeSort_perm ..).symm, pairwise_mergeSort hd⟩

theorem combineEtags_concat (hd : (etags.map Prod.fst).Nodup) (h : ∀ p ∈ etags, p.1 < s)
    (e : UInt64) : combineEtags (etags ++ [(s, e)]) = combineHash (combineEtags etags) e := by
  obtain ⟨l, hp, hl⟩ := exists_ordered hd
  have hp' : (etags ++ [(s, e)]).Perm (l ++ [(s, e)]) := hp.append_right _
  have hl' : (l ++ [(s, e)]).Pairwise (fun a b => a.1 < b.1) := by
    refine List.pairwise_append.mpr ⟨hl, List.pairwise_singleton _ _, ?_⟩
    intro p hmem q hq
    rw [List.mem_singleton.mp hq]
    exact h p (hp.mem_iff.mpr hmem)
  rw [combineEtags_append hp' hl', combineEtags_eq_folded hp hl]
  rfl

theorem exists_concat_of_isGreatest (hd : (etags.map Prod.fst).Nodup)
    (hs : IsGreatest {t | t ∈ etags.map Prod.fst} s) :
    ∃ before e, etags.Perm (before ++ [(s, e)]) ∧
      (before ++ [(s, e)]).Pairwise (fun a b => a.1 < b.1) := by
  obtain ⟨hshard, hbound⟩ := hs
  obtain ⟨⟨s, e⟩, hmem, rfl⟩ := List.mem_map.mp hshard
  obtain ⟨l, hp, hl⟩ := exists_ordered hd
  obtain ⟨before, after, rfl⟩ := List.append_of_mem (hp.mem_iff.mp hmem)
  cases after with
  | nil => exact ⟨before, e, hp, hl⟩
  | cons p after =>
    have hlt : s < p.1 := (List.pairwise_cons.mp (List.pairwise_append.mp hl).2.1).1 p (by simp)
    have hle : p.1 ≤ s := hbound (List.mem_map_of_mem (hp.mem_iff.mpr (by simp)))
    exact absurd hlt (UInt32.not_lt.mpr hle)

theorem combineEtags_withEtag_last (hp : etags.Perm (before ++ [(s, e)]))
    (hl : (before ++ [(s, e)]).Pairwise (fun a b => a.1 < b.1)) (e' : UInt64) :
    combineEtags (withEtag etags s e') = combineHash (folded 0 before) e' := by
  have hp' : (withEtag etags s e').Perm (before ++ [(s, e')]) := withEtag_append hl e' ▸ hp.map _
  have hl' : (before ++ [(s, e')]).Pairwise (fun a b => a.1 < b.1) := by
    rw [← List.pairwise_map (f := Prod.fst)] at hl ⊢
    simpa using hl
  exact combineEtags_append hp' hl'

structure CombinesInOrder (etags : List (ShardNumber × UInt64)) : Prop where
  folds : ∃ l, etags.Perm l ∧ l.Pairwise (fun a b => a.1 < b.1) ∧ ∀ etags', etags.Perm etags' →
    combineEtags etags' = l.foldl (fun acc e => combineHash acc e.2) 0
  ofMap : ∀ etags', (etags'.map Prod.fst).Nodup → (∀ p, p ∈ etags ↔ p ∈ etags') →
    combineEtags etags' = combineEtags etags
  single : ∀ s e, etags = [(s, e)] → combineEtags etags = e
  above : ∀ s e, (∀ p ∈ etags, p.1 < s) →
    combineEtags (etags ++ [(s, e)]) = combineHash (combineEtags etags) e
  last : ∀ s, IsGreatest {t | t ∈ etags.map Prod.fst} s →
    Function.Bijective fun e => combineEtags (withEtag etags s e)

theorem combined_in_order (etags : List (ShardNumber × UInt64))
    (hd : (etags.map Prod.fst).Nodup) :
    CombinesInOrder etags ∧ ∀ acc v, (combineHash acc v).toBitVec =
      (acc.toBitVec.rotateLeft 5 + acc.toBitVec) ^^^ v.toBitVec := by
  obtain ⟨l, hp, hl⟩ := exists_ordered hd
  have hfolded : ∀ etags', etags.Perm etags' → combineEtags etags' = folded 0 l :=
    fun _ hperm => combineEtags_eq_folded (hperm.symm.trans hp) hl
  refine ⟨?_, toBitVec_combineHash⟩
  constructor
  case folds => exact ⟨l, hp, hl, hfolded⟩
  case ofMap =>
    intro etags' hd' hmem
    have hperm : etags.Perm etags' :=
      (List.perm_ext_iff_of_nodup hd.of_map hd'.of_map).mpr hmem
    rw [hfolded etags' hperm, hfolded etags (.refl _)]
  case single =>
    rintro s e rfl
    exact combineEtags_singleton s e
  case above =>
    intro s e h
    exact combineEtags_concat hd h e
  case last =>
    intro s hs
    obtain ⟨before, e, hplaced, hordered⟩ := exists_concat_of_isGreatest hd hs
    have hlast : (fun e' => combineEtags (withEtag etags s e')) = combineHash (folded 0 before) :=
      funext fun e' => combineEtags_withEtag_last hplaced hordered e'
    rw [hlast]
    exact combineHash_bijective _

theorem combined_in_order_three :
    let etags : List (ShardNumber × UInt64) := [(4, 33), (0, 11), (1, 22)]
    (etags.map Prod.fst).Nodup ∧ CombinesInOrder etags ∧ ∀ acc v, (combineHash acc v).toBitVec =
      (acc.toBitVec.rotateLeft 5 + acc.toBitVec) ^^^ v.toBitVec :=
  have hd : (([(4, 33), (0, 11), (1, 22)] : List (ShardNumber × UInt64)).map Prod.fst).Nodup := by
    decide
  ⟨hd, combined_in_order _ hd⟩

end Fingerprint

end ShardRouting
