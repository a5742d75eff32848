import ShardRouting.Proofs.Topology.MoveSteps

namespace ShardRouting

inductive Shuffle {α : Type} : List α → List α → List α → Prop
  | nil : Shuffle [] [] []
  | left {l r m : List α} (x : α) (h : Shuffle l r m) : Shuffle (x :: l) r (x :: m)
  | right {l r m : List α} (x : α) (h : Shuffle l r m) : Shuffle l (x :: r) (x :: m)

inductive Interleaving {α : Type} : List (List α) → List α → Prop
  | nil : Interleaving [] []
  | cons {l xs ys : List α} {ls : List (List α)} (h : Interleaving ls xs) (hs : Shuffle l xs ys) :
    Interleaving (l :: ls) ys

namespace Shuffle

variable {α : Type} {l r m : List α}

theorem length_eq (h : Shuffle l r m) : m.length = l.length + r.length := by
  induction h with
  | nil => rfl
  | left x _ ih => simp only [List.length_cons]; omega
  | right x _ ih => simp only [List.length_cons]; omega

theorem filter (h : Shuffle l r m) (p : α → Bool) :
    Shuffle (l.filter p) (r.filter p) (m.filter p) := by
  induction h with
  | nil => exact .nil
  | left x _ ih =>
    by_cases hx : p x = true
    · simpa only [List.filter_cons_of_pos hx] using ih.left x
    · simpa only [List.filter_cons_of_neg hx] using ih
  | right x _ ih =>
    by_cases hx : p x = true
    · simpa only [List.filter_cons_of_pos hx] using ih.right x
    · simpa only [List.filter_cons_of_neg hx] using ih

theorem eq_of_nil_left (h : Shuffle [] r m) : m = r := by
  induction r generalizing m with
  | nil => cases h; rfl
  | cons x r ih =>
    cases h with
    | right _ h => rw [ih h]

theorem eq_of_nil_right (h : Shuffle l [] m) : m = l := by
  induction l generalizing m with
  | nil => cases h; rfl
  | cons x l ih =>
    cases h with
    | left _ h => rw [ih h]

end Shuffle

theorem Interleaving.length_eq {α : Type} {ls : List (List α)} {xs : List α}
    (h : Interleaving ls xs) : xs.length = ls.flatten.length := by
  induction h with
  | nil => rfl
  | cons _ hs ih => rw [hs.length_eq, ih, List.flatten_cons, List.length_append]

structure Script where
  bucket : Bucket
  steps : List MoveStep

abbrev BucketStep := Bucket × MoveStep

def Script.calls (σ : Script) : List BucketStep := σ.steps.map (σ.bucket, ·)

namespace Script

variable {scripts : List Script} {xs : List BucketStep}

theorem filter_calls (σ : Script) (b : Bucket) :
    σ.calls.filter (·.1 = b) = if σ.bucket = b then σ.calls else [] := by
  split
  · next h =>
    apply List.filter_eq_self.mpr
    intro x hx
    obtain ⟨m, -, rfl⟩ := List.mem_map.mp hx
    exact decide_eq_true h
  · next h =>
    apply List.filter_eq_nil_iff.mpr
    intro x hx
    obtain ⟨m, -, rfl⟩ := List.mem_map.mp hx
    simpa using h

theorem filter_eq_nil (h : Interleaving (scripts.map calls) xs) {b : Bucket}
    (hb : ∀ σ ∈ scripts, σ.bucket ≠ b) : xs.filter (·.1 = b) = [] := by
  induction scripts generalizing xs with
  | nil => cases h; rfl
  | cons σ rest ih =>
    cases h with
    | cons h hs =>
      obtain ⟨hσ, hrest⟩ := List.forall_mem_cons.mp hb
      have hfilter := hs.filter (·.1 = b)
      rw [ih h hrest] at hfilter
      rw [hfilter.eq_of_nil_right, filter_calls, if_neg hσ]

theorem filter_eq_calls (h : Interleaving (scripts.map calls) xs)
    (hd : (scripts.map bucket).Nodup) {σ : Script} (hσ : σ ∈ scripts) :
    xs.filter (·.1 = σ.bucket) = σ.calls := by
  induction scripts generalizing xs with
  | nil => exact absurd hσ List.not_mem_nil
  | cons τ rest ih =>
    cases h with
    | cons h hs =>
      obtain ⟨hτ, hrest⟩ := List.nodup_cons.mp hd
      have hfilter := hs.filter (·.1 = σ.bucket)
      rcases List.mem_cons.mp hσ with rfl | hσ
      · have hother : ∀ τ ∈ rest, τ.bucket ≠ σ.bucket := fun τ hmem heq =>
          hτ (List.mem_map.mpr ⟨τ, hmem, heq⟩)
        rw [filter_eq_nil h hother] at hfilter
        rw [hfilter.eq_of_nil_right, filter_calls, if_pos rfl]
      · have hne : τ.bucket ≠ σ.bucket := fun heq => hτ (List.mem_map.mpr ⟨σ, hσ, heq.symm⟩)
        rw [ih h hrest hσ, filter_calls, if_neg hne] at hfilter
        exact hfilter.eq_of_nil_left

theorem filter_congr (hd : (scripts.map bucket).Nodup) {ys : List BucketStep}
    (hxs : Interleaving (scripts.map calls) xs) (hys : Interleaving (scripts.map calls) ys)
    (b : Bucket) : xs.filter (·.1 = b) = ys.filter (·.1 = b) := by
  by_cases hb : ∃ σ ∈ scripts, σ.bucket = b
  · obtain ⟨σ, hσ, rfl⟩ := hb
    rw [filter_eq_calls hxs hd hσ, filter_eq_calls hys hd hσ]
  · have hnone : ∀ σ ∈ scripts, σ.bucket ≠ b := fun σ hσ heq => hb ⟨σ, hσ, heq⟩
    rw [filter_eq_nil hxs hnone, filter_eq_nil hys hnone]

end Script

end ShardRouting
