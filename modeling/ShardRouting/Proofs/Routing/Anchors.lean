import ShardRouting.Proofs.Routing.Colocation

namespace ShardRouting

inductive LastSegmentOf (c : Char) (l : String) : String → Prop
  | whole (h : c ∉ l.toList.tail) : LastSegmentOf c l l
  | cut {p a : String} (split : l = prefixed p c a) (hp : p ≠ "") (ha : c ∉ a.toList) :
    LastSegmentOf c l a

theorem LastSegmentOf.mem_of_mem {c d : Char} {l a : String} (h : LastSegmentOf c l a)
    (hd : d ∈ a.toList) : d ∈ l.toList := by
  cases h with
  | whole => exact hd
  | cut split _ _ =>
    rw [split, toList_prefixed]
    exact List.mem_append_right _ (List.mem_cons_of_mem c hd)

section Lower

variable {s : String}

theorem lowercase_of_lower (h : ∀ d ∈ s.toList, lowerChar d = [d]) : lowercase s = s := by
  rw [← String.toList_inj, toList_lowercase]
  exact lowerFrom_of_lower [] h

theorem lowerChar_of_mem_lowercase {d : Char} (h : d ∈ (lowercase s).toList) :
    lowerChar d = [d] := by
  rw [toList_lowercase] at h
  exact lowerChar_of_mem_lowerFrom h

theorem lowercase_lowercase (s : String) : lowercase (lowercase s) = lowercase s :=
  lowercase_of_lower fun _ h => lowerChar_of_mem_lowercase h

theorem lowercase_eq_empty_iff : lowercase s = "" ↔ s = "" := by
  constructor
  · intro h
    by_contra hne
    exact lowercase_ne_empty hne h
  · rintro rfl
    rfl

end Lower

section Anchor

variable {key : String} {c : Char}

theorem lastSegmentOf_anchor (key : String) (c : Char) :
    LastSegmentOf c (lowercase key) (anchor key c) := by
  by_cases h : c ∈ (lowercase key).toList.tail
  · obtain ⟨as, bs, htail, hbs⟩ := exists_last_of_mem h
    have hanchor : anchor key c = String.ofList bs := by
      rw [anchor, lastSegment, if_pos h, htail, afterLast_append as hbs]
    obtain ⟨d, hsplit⟩ : ∃ d, (lowercase key).toList = d :: as ++ c :: bs := by
      cases hl : (lowercase key).toList with
      | nil =>
        rw [hl] at h
        cases h
      | cons d tail =>
        rw [hl] at htail
        exact ⟨d, congrArg (d :: ·) htail⟩
    rw [hanchor]
    refine .cut (p := String.ofList (d :: as)) ?_ ?_ ?_
    · rw [← String.toList_inj, hsplit, toList_prefixed, String.toList_ofList, String.toList_ofList]
    · exact mt String.toList_eq_nil_iff.mpr (by simp)
    · rwa [String.toList_ofList]
  · have hanchor : anchor key c = lowercase key := by
      rw [anchor, lastSegment, if_neg h, String.ofList_toList]
    rw [hanchor]
    exact .whole h

theorem anchor_lowercase (key : String) (c : Char) : anchor (lowercase key) c = anchor key c := by
  rw [anchor, lowercase_lowercase]
  rfl

theorem lowercase_anchor (key : String) (c : Char) : lowercase (anchor key c) = anchor key c := by
  apply lowercase_of_lower
  intro d hd
  exact lowerChar_of_mem_lowercase ((lastSegmentOf_anchor key c).mem_of_mem hd)

theorem anchor_anchor (key : String) (c : Char) : anchor (anchor key c) c = anchor key c := by
  have hlower := lowercase_anchor key c
  have hsegment := lastSegmentOf_anchor key c
  generalize anchor key c = a at hlower hsegment
  cases hsegment with
  | whole h => rw [anchor, lowercase_lowercase, lastSegment, if_neg h, String.ofList_toList]
  | cut _ _ ha => rw [anchor_of_not_mem (hlower.symm ▸ ha), hlower]

theorem anchor_eq_empty_iff : anchor key c = "" ↔
    key = "" ∨ ∃ p ≠ "", lowercase key = p ++ String.singleton c := by
  constructor
  · intro h
    have hsegment := lastSegmentOf_anchor key c
    rw [h] at hsegment
    generalize hl : lowercase key = l at hsegment
    cases hsegment with
    | whole => exact .inl (lowercase_eq_empty_iff.mp hl)
    | @cut p _ split hp _ =>
      refine .inr ⟨p, hp, ?_⟩
      rw [split, prefixed, String.append_empty]
  · rintro (rfl | ⟨p, hp, hl⟩)
    · rfl
    · have hlist : (lowercase key).toList = p.toList ++ [c] := by simp [hl]
      rw [anchor, hlist, lastSegment_append (mt String.toList_eq_nil_iff.mp hp),
        afterLast_append _ List.not_mem_nil]

theorem bucketFor_eq_emptyKey_iff {space : UInt32} :
    bucketFor key c space = .error (.refused (.emptyKey key)) ↔ anchor key c = "" := by
  constructor
  · intro h
    by_contra hne
    simp only [bucketFor, String.isEmpty_eq_false_iff.mpr hne, Bool.false_eq_true, if_false] at h
    split at h <;> cases h
  · intro h
    exact bucketFor_of_empty h space

structure Anchored (key : String) (c : Char) : Prop where
  segment : LastSegmentOf c (lowercase key) (anchor key c)
  ofAnchor : anchor (anchor key c) c = anchor key c
  ofLower : anchor (lowercase key) c = anchor key c
  sameBucket : anchor key c ≠ "" → ∀ space,
    bucketFor (lowercase key) c space = bucketFor key c space ∧
      bucketFor (anchor key c) c space = bucketFor key c space
  empty : ∀ space, bucketFor key c space = .error (.refused (.emptyKey key)) ↔
    key = "" ∨ ∃ p ≠ "", lowercase key = p ++ String.singleton c
  inSpace : ∀ space ≠ 0, bucketFor key c space ≠ .error (.refused (.emptyKey key)) →
    ∃ b < space, bucketFor key c space = .ok b

theorem anchor_is_normal_form (key : String) (c : Char) : Anchored key c := by
  constructor
  case segment => exact lastSegmentOf_anchor key c
  case ofAnchor => exact anchor_anchor key c
  case ofLower => exact anchor_lowercase key c
  case sameBucket =>
    intro hne space
    exact ⟨bucketFor_of_anchor_eq (anchor_lowercase key c) hne space,
      bucketFor_of_anchor_eq (anchor_anchor key c) hne space⟩
  case empty =>
    intro space
    rw [bucketFor_eq_emptyKey_iff, anchor_eq_empty_iff]
  case inSpace =>
    intro space hspace hfull
    exact exists_bucketFor (mt bucketFor_eq_emptyKey_iff.mpr hfull) hspace

end Anchor

end ShardRouting
