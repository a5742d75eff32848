import ShardRouting.Proofs.Routing.Totality
import ShardRouting.Proofs.Text.Lowercase

namespace ShardRouting

section LastSegment

variable {c : Char} {xs ys zs : List Char}

theorem afterLast_append (xs : List Char) (h : c ∉ ys) : afterLast c (xs ++ c :: ys) = ys := by
  have hys : ∀ y ∈ ys.reverse, (y ≠ c : Bool) := by
    intro y hy
    rw [decide_eq_true_eq]
    rintro rfl
    exact h (List.mem_reverse.mp hy)
  rw [afterLast, List.reverse_append, List.reverse_cons, List.append_assoc,
    List.takeWhile_append_of_pos hys, List.singleton_append, List.takeWhile_cons_of_neg (by simp),
    List.append_nil, List.reverse_reverse]

theorem exists_last_of_mem (h : c ∈ ys) : ∃ as bs, ys = as ++ c :: bs ∧ c ∉ bs := by
  obtain ⟨as, bs, heq, hnot⟩ := List.eq_append_cons_of_mem (List.mem_reverse.mpr h)
  refine ⟨bs.reverse, as.reverse, ?_, fun hc => hnot (List.mem_reverse.mp hc)⟩
  rw [← List.reverse_reverse ys, heq, List.reverse_append, List.reverse_cons, List.append_assoc,
    List.singleton_append]

theorem length_afterLast_lt (xs : List Char) (h : c ∈ ys) :
    (afterLast c (xs ++ ys)).length < ys.length := by
  obtain ⟨as, bs, rfl, hbs⟩ := exists_last_of_mem h
  rw [← List.append_assoc, afterLast_append _ hbs, List.length_append, List.length_cons]
  omega

theorem lastSegment_of_not_mem (h : c ∉ xs) : lastSegment c xs = xs :=
  if_neg fun hc => h (List.mem_of_mem_tail hc)

theorem lastSegment_append (hzs : zs ≠ []) :
    lastSegment c (zs ++ c :: ys) = afterLast c (zs.tail ++ c :: ys) := by
  have htail : (zs ++ c :: ys).tail = zs.tail ++ c :: ys := List.tail_append_of_ne_nil hzs
  rw [lastSegment, htail, if_pos (List.mem_append_right _ List.mem_cons_self)]

theorem lastSegment_append_eq_iff (hzs : zs ≠ []) (hxs : c ∉ xs) (hlen : ys.length = xs.length) :
    lastSegment c (zs ++ c :: ys) = xs ↔ ys = xs := by
  rw [lastSegment_append hzs]
  constructor
  · intro h
    by_cases hys : c ∈ ys
    · have hlt := length_afterLast_lt (zs.tail ++ [c]) hys
      rw [List.append_assoc, List.singleton_append, h, hlen] at hlt
      exact absurd hlt (Nat.lt_irrefl _)
    · exact (afterLast_append _ hys).symm.trans h
  · rintro rfl
    exact afterLast_append _ hxs

end LastSegment

def prefixed (p : String) (c : Char) (k : String) : String := p ++ String.singleton c ++ k

/-- The separator stays as it is in lower case, and the key has the lower-case form that it has
alone: only a capital sigma at the end of a word looks at what stands before it. -/
def Separates (p : String) (c : Char) (k : String) : Prop :=
  lowerChar c = [c] ∧
    (startsCased (c :: p.toList.reverse) = false ∨ opensWithSigma k.toList = false)

section Anchor

variable {p k : String} {c : Char}

theorem toList_lowercase (s : String) : (lowercase s).toList = lowerFrom [] s.toList :=
  String.toList_ofList

theorem toList_prefixed : (prefixed p c k).toList = p.toList ++ c :: k.toList := by
  simp [prefixed]

theorem anchor_of_not_mem (h : c ∉ (lowercase k).toList) : anchor k c = lowercase k := by
  rw [anchor, lastSegment_of_not_mem h, String.ofList_toList]

theorem lowercase_ne_empty (h : k ≠ "") : lowercase k ≠ "" := by
  intro hempty
  have hnil := toList_lowercase k
  rw [hempty] at hnil
  exact lowerFrom_ne_nil [] (mt String.toList_eq_nil_iff.mp h) hnil.symm

theorem anchor_of_not_lower (h : lowerChar c ≠ [c]) (k : String) : anchor k c = lowercase k := by
  apply anchor_of_not_mem
  rw [toList_lowercase]
  exact fun hc => h (lowerChar_of_mem_lowerFrom hc)

theorem exists_toList_lowercase_prefixed (hp : p ≠ "") (c : Char) (k : String) :
    ∃ zs ≠ [], (lowercase (prefixed p c k)).toList = zs ++ (lowerAt p.toList.reverse k.toList c ++
      lowerFrom (c :: p.toList.reverse) k.toList) := by
  obtain ⟨zs, hzs, heq⟩ := exists_lowerFrom_append [] p.toList (c :: k.toList)
  refine ⟨zs, hzs (mt String.toList_eq_nil_iff.mp hp), ?_⟩
  rw [toList_lowercase, toList_prefixed, heq, List.append_nil, lowerFrom_cons]

theorem lowercase_prefixed_ne (hp : p ≠ "") (c : Char) (k : String) :
    lowercase (prefixed p c k) ≠ lowercase k := by
  intro h
  obtain ⟨zs, hzs, heq⟩ := exists_toList_lowercase_prefixed hp c k
  rw [h, toList_lowercase] at heq
  have hlengths := congrArg List.length heq
  rw [List.length_append, List.length_append,
    length_lowerFrom (c :: p.toList.reverse) [] k.toList] at hlengths
  have hpos := List.length_pos_of_ne_nil hzs
  omega

theorem anchor_prefixed_eq_iff_of_lower (hp : p ≠ "") (hk : c ∉ (lowercase k).toList)
    (hlower : lowerChar c = [c]) : anchor (prefixed p c k) c = anchor k c ↔
      startsCased (c :: p.toList.reverse) = false ∨ opensWithSigma k.toList = false := by
  have hsigma : c ≠ 'Σ' := by
    rintro rfl
    exact absurd hlower (by decide +kernel)
  obtain ⟨zs, hzs, heq⟩ := exists_toList_lowercase_prefixed hp c k
  rw [lowerAt_of_ne _ _ hsigma, hlower, List.singleton_append] at heq
  rw [anchor_of_not_mem hk, anchor, heq, ← String.toList_inj, String.toList_ofList]
  rw [toList_lowercase] at hk ⊢
  rw [lastSegment_append_eq_iff hzs hk (length_lowerFrom _ _ _), lowerFrom_eq_iff]
  rfl

theorem anchor_prefixed_eq_iff (hp : p ≠ "") (hk : c ∉ (lowercase k).toList) :
    anchor (prefixed p c k) c = anchor k c ↔ Separates p c k := by
  by_cases hlower : lowerChar c = [c]
  · rw [anchor_prefixed_eq_iff_of_lower hp hk hlower]
    exact (and_iff_right hlower).symm
  · rw [anchor_of_not_lower hlower, anchor_of_not_lower hlower]
    exact iff_of_false (lowercase_prefixed_ne hp c k) fun h => hlower h.1

theorem separates_of_uncased (hlower : lowerChar c = [c]) (hcased : ¬isCased c)
    (hignorable : ¬isCaseIgnorable c) : Separates p c k := by
  refine ⟨hlower, .inl ?_⟩
  rw [startsCased_cons_of_not_ignorable hignorable]
  exact eq_false_of_ne_true hcased

example : Separates p Config.standard.separator k :=
  separates_of_uncased (by decide +kernel) (by decide +kernel) (by decide +kernel)

theorem bucketFor_of_anchor_eq {key key' : String} {separator : Char}
    (h : anchor key separator = anchor key' separator) (hne : anchor key' separator ≠ "")
    (space : UInt32) : bucketFor key separator space = bucketFor key' separator space := by
  simp only [bucketFor, h, String.isEmpty_eq_false_iff.mpr hne, Bool.false_eq_true, if_false]

structure Colocated (key key' : String) (separator : Char) : Prop where
  bucket : ∀ space ≠ 0, ∃ b < space,
    bucketFor key separator space = .ok b ∧ bucketFor key' separator space = .ok b
  decision : ∀ (policy : WritePolicy) (t : Topology), ∃ d,
    ((⟨separator, policy⟩ : Router).decide t key).value = .ok d ∧
      ((⟨separator, policy⟩ : Router).decide t key').value = .ok d

theorem colocated_of_anchor_eq {key key' : String} {separator : Char}
    (h : anchor key separator = anchor key' separator) (hne : anchor key' separator ≠ "") :
    Colocated key key' separator where
  bucket := by
    intro space hspace
    obtain ⟨b, hb, hbucket⟩ := exists_bucketFor hne hspace
    exact ⟨b, hb, (bucketFor_of_anchor_eq h hne space).trans hbucket, hbucket⟩
  decision := by
    intro policy t
    obtain ⟨b, -, hbucket⟩ := exists_bucketFor hne t.space_ne_zero
    refine ⟨(⟨separator, policy⟩ : Router).decision t b, ?_, ?_⟩
    · rw [Router.value_decide, bucketFor_of_anchor_eq h hne, hbucket]
      rfl
    · rw [Router.value_decide, hbucket]
      rfl

/-- A prefix is cut off, and the key stays with the one after it, exactly as far as the separator
separates. -/
theorem prefix_cut_iff_separates (hp : p ≠ "") (hk : k ≠ "") (hc : c ∉ (lowercase k).toList) :
    (anchor (prefixed p c k) c = anchor k c ↔ Separates p c k) ∧
      (Separates p c k → Colocated (prefixed p c k) k c) := by
  have hiff := anchor_prefixed_eq_iff hp hc
  refine ⟨hiff, fun h => colocated_of_anchor_eq (hiff.mpr h) ?_⟩
  rw [anchor_of_not_mem hc]
  exact lowercase_ne_empty hk

theorem prefix_cut_iff_separates_users :
    "orders/1" ≠ "" ∧ "Users/1" ≠ "" ∧ '$' ∉ (lowercase "Users/1").toList ∧
      (anchor (prefixed "orders/1" '$' "Users/1") '$' = anchor "Users/1" '$' ↔
        Separates "orders/1" '$' "Users/1") ∧
      (Separates "orders/1" '$' "Users/1" →
        Colocated (prefixed "orders/1" '$' "Users/1") "Users/1" '$') := by
  have hc : '$' ∉ (lowercase "Users/1").toList := by decide +kernel
  exact ⟨by decide, by decide, hc, prefix_cut_iff_separates (by decide) (by decide) hc⟩

theorem prefix_not_cut :
    ('X' ∉ (lowercase "users/1").toList ∧
      anchor (prefixed "orders/1" 'X' "users/1") 'X' = "orders/1xusers/1" ∧
      anchor "users/1" 'X' = "users/1" ∧
      bucketFor (prefixed "orders/1" 'X' "users/1") 'X' 1048576 ≠
        bucketFor "users/1" 'X' 1048576) ∧
    (':' ∉ (lowercase "Σ").toList ∧
      anchor (prefixed "orders" ':' "Σ") ':' = "ς" ∧ anchor "Σ" ':' = "σ" ∧
      bucketFor (prefixed "orders" ':' "Σ") ':' 1048576 ≠ bucketFor "Σ" ':' 1048576) := by
  decide +kernel

end Anchor

end ShardRouting
