import Mathlib.Data.List.Basic
import ShardRouting.Text.Lowercase

namespace ShardRouting

namespace CaseRun

def meets (r r' : CaseRun) : Bool :=
  Nat.ble r.image r'.last && Nat.ble r'.first (r.image + (r.last - r.first)) &&
    !(r'.step = 2 && (r.step = 2 || r.first = r.last) && (r.image + r'.first) % 2 = 1)

theorem covers_iff {r : CaseRun} {n : Nat} :
    r.covers n ↔ r.first ≤ n ∧ n ≤ r.last ∧ (n - r.first) % r.step = 0 := by
  simp [covers, and_assoc]

theorem not_covers_image {r r' : CaseRun} (h : r.meets r' = false) {n : Nat} (hn : r.covers n) :
    ¬r'.covers (n - r.first + r.image) := by
  intro hm
  obtain ⟨hfirst, hlast, hstep⟩ := covers_iff.mp hn
  obtain ⟨hfirst', hlast', hstep'⟩ := covers_iff.mp hm
  have hlow : Nat.ble r.image r'.last := Nat.ble_eq.mpr (by omega)
  have hhigh : Nat.ble r'.first (r.image + (r.last - r.first)) := Nat.ble_eq.mpr (by omega)
  simp only [meets, hlow, hhigh, Bool.true_and, Bool.not_eq_eq_eq_not, Bool.not_false,
    Bool.and_eq_true, Bool.or_eq_true, decide_eq_true_eq] at h
  obtain ⟨⟨htwo, hsteps⟩, hodd⟩ := h
  rw [htwo] at hstep'
  rcases hsteps with hsteps | hsteps
  · rw [hsteps] at hstep
    omega
  · omega

def dottedI : CaseRun := ⟨0x130, 0x130, 1, 0x69⟩

theorem meets_eq_false : ∀ r ∈ lowerRuns, ∀ r' ∈ dottedI :: lowerRuns, r.meets r' = false := by
  -- A check of all pairs of runs, the bounds first: few pairs get as far as the steps.
  have h : (lowerRuns.all fun r => (dottedI :: lowerRuns).all fun r' => !r.meets r') = true := by
    decide +kernel
  simpa [List.all_eq_true] using h

theorem isValidChar_image : ∀ r ∈ lowerRuns, ∀ n ≤ r.last - r.first, (n + r.image).isValidChar := by
  have h : (lowerRuns.all fun r => r.image + (r.last - r.first) < 0xD800 ||
      0xDFFF < r.image && r.image + (r.last - r.first) < 0x110000) = true := by
    decide +kernel
  intro r hr n hn
  have hbound := List.all_eq_true.mp h r hr
  simp only [Bool.or_eq_true, Bool.and_eq_true, decide_eq_true_eq] at hbound
  rcases hbound with hbound | hbound
  · exact .inl (by omega)
  · exact .inr (by omega)

end CaseRun

section LowerChar

variable {c d : Char}

theorem lowerChar_of_uncovered (hi : c ≠ '\u0130')
    (h : ∀ r ∈ lowerRuns, ¬r.covers c.toNat) : lowerChar c = [c] := by
  have hnone : lowerRuns.find? (·.covers c.toNat) = none := by simpa using h
  rw [lowerChar, if_neg hi, hnone]

theorem lowerChar_image {r : CaseRun} (hr : r ∈ lowerRuns) {n : Nat} (hn : r.covers n) :
    lowerChar (Char.ofNat (n - r.first + r.image)) = [Char.ofNat (n - r.first + r.image)] := by
  obtain ⟨hfirst, hlast, -⟩ := CaseRun.covers_iff.mp hn
  have hvalid := CaseRun.isValidChar_image r hr (n - r.first) (by omega)
  have huncovered : ∀ r' ∈ CaseRun.dottedI :: lowerRuns,
      ¬r'.covers (Char.ofNat (n - r.first + r.image)).toNat := by
    intro r' hr'
    rw [Char.ofNat, dif_pos hvalid]
    exact CaseRun.not_covers_image (CaseRun.meets_eq_false r hr r' hr') hn
  apply lowerChar_of_uncovered
  · intro hdotted
    apply huncovered _ List.mem_cons_self
    rw [hdotted]
    rfl
  · exact fun r' hr' => huncovered r' (List.mem_cons_of_mem _ hr')

theorem lowerChar_of_mem (h : d ∈ lowerChar c) : lowerChar d = [d] := by
  rw [lowerChar] at h
  split at h
  · have hforms : lowerChar 'i' = ['i'] ∧ lowerChar '\u0307' = ['\u0307'] := by decide +kernel
    rcases List.mem_pair.mp h with rfl | rfl
    · exact hforms.1
    · exact hforms.2
  · next hi =>
    split at h
    · next r hr =>
      obtain rfl := List.mem_singleton.mp h
      exact lowerChar_image (List.mem_of_find?_eq_some hr) (List.find?_eq_some_iff_append.mp hr).1
    · next hnone =>
      obtain rfl := List.mem_singleton.mp h
      exact lowerChar_of_uncovered hi (by simpa using hnone)

theorem lowerChar_ne_nil (c : Char) : lowerChar c ≠ [] := by
  rw [lowerChar]
  split
  · simp
  · split <;> simp

theorem lowerChar_lowerSigma (before after : List Char) :
    lowerChar (lowerSigma before after) = [lowerSigma before after] := by
  have hforms : lowerChar 'ς' = ['ς'] ∧ lowerChar 'σ' = ['σ'] := by decide +kernel
  rw [lowerSigma]
  split
  · exact hforms.1
  · exact hforms.2

end LowerChar

def lowerAt (before after : List Char) (c : Char) : List Char :=
  if c = 'Σ' then [lowerSigma before after] else lowerChar c

section LowerAt

variable (before before' after after' : List Char) (c : Char)

theorem lowerAt_of_ne {c : Char} (h : c ≠ 'Σ') : lowerAt before after c = lowerChar c := if_neg h

theorem lowerAt_ne_nil : lowerAt before after c ≠ [] := by
  rw [lowerAt]
  split
  · simp
  · exact lowerChar_ne_nil c

theorem length_lowerAt : (lowerAt before after c).length = (lowerAt before' after' c).length := by
  rw [lowerAt, lowerAt]
  split <;> rfl

variable {before after c}

theorem lowerChar_of_mem_lowerAt {d : Char} (h : d ∈ lowerAt before after c) :
    lowerChar d = [d] := by
  rw [lowerAt] at h
  split at h
  · rw [List.mem_singleton.mp h]
    exact lowerChar_lowerSigma before after
  · exact lowerChar_of_mem h

end LowerAt

section LowerFrom

theorem lowerFrom_cons (before : List Char) (c : Char) (after : List Char) :
    lowerFrom before (c :: after) = lowerAt before after c ++ lowerFrom (c :: before) after := rfl

theorem lowerChar_of_mem_lowerFrom {before cs : List Char} {d : Char}
    (h : d ∈ lowerFrom before cs) : lowerChar d = [d] := by
  induction cs generalizing before with
  | nil => cases h
  | cons c cs ih =>
    rw [lowerFrom_cons] at h
    rcases List.mem_append.mp h with h | h
    · exact lowerChar_of_mem_lowerAt h
    · exact ih h

theorem lowerFrom_of_lower (before : List Char) {cs : List Char}
    (h : ∀ c ∈ cs, lowerChar c = [c]) : lowerFrom before cs = cs := by
  induction cs generalizing before with
  | nil => rfl
  | cons c cs ih =>
    obtain ⟨hc, hcs⟩ := List.forall_mem_cons.mp h
    have hsigma : c ≠ 'Σ' := by
      rintro rfl
      exact absurd hc (by decide +kernel)
    rw [lowerFrom_cons, lowerAt_of_ne _ _ hsigma, hc, ih _ hcs, List.singleton_append]

theorem length_lowerFrom (before before' cs : List Char) :
    (lowerFrom before cs).length = (lowerFrom before' cs).length := by
  induction cs generalizing before before' with
  | nil => rfl
  | cons c cs ih =>
    rw [lowerFrom_cons, lowerFrom_cons, List.length_append, List.length_append,
      length_lowerAt before before' cs cs c, ih (c :: before) (c :: before')]

theorem lowerFrom_ne_nil (before : List Char) {cs : List Char} (h : cs ≠ []) :
    lowerFrom before cs ≠ [] := by
  obtain ⟨c, rest, rfl⟩ := List.exists_cons_of_ne_nil h
  rw [lowerFrom_cons]
  exact List.append_ne_nil_of_left_ne_nil (lowerAt_ne_nil before rest c) _

theorem exists_lowerFrom_append (before xs ys : List Char) :
    ∃ zs, (xs ≠ [] → zs ≠ []) ∧
      lowerFrom before (xs ++ ys) = zs ++ lowerFrom (xs.reverse ++ before) ys := by
  induction xs generalizing before with
  | nil => exact ⟨[], nofun, rfl⟩
  | cons x xs ih =>
    obtain ⟨zs, -, hzs⟩ := ih (x :: before)
    refine ⟨lowerAt before (xs ++ ys) x ++ zs, fun _ => ?_, ?_⟩
    · exact List.append_ne_nil_of_left_ne_nil (lowerAt_ne_nil before _ x) zs
    · rw [List.cons_append, lowerFrom_cons, hzs, List.reverse_cons]
      simp only [List.append_assoc, List.cons_append, List.nil_append]

variable {c : Char} {cs : List Char}

theorem startsCased_cons_of_ignorable (h : isCaseIgnorable c) (cs : List Char) :
    startsCased (c :: cs) = startsCased cs := by
  rw [startsCased, startsCased, List.dropWhile_cons_of_pos h]

theorem startsCased_cons_of_not_ignorable (h : ¬isCaseIgnorable c) (cs : List Char) :
    startsCased (c :: cs) = isCased c := by
  rw [startsCased, List.dropWhile_cons_of_neg h, List.head?_cons, Option.any_some]

def opensWithSigma (cs : List Char) : Bool :=
  match cs.dropWhile isCaseIgnorable with
  | [] => false
  | c :: after => c = 'Σ' && !startsCased after

theorem opensWithSigma_cons_of_ignorable (h : isCaseIgnorable c) (cs : List Char) :
    opensWithSigma (c :: cs) = opensWithSigma cs := by
  rw [opensWithSigma, opensWithSigma, List.dropWhile_cons_of_pos h]

theorem opensWithSigma_cons_of_not_ignorable (h : ¬isCaseIgnorable c) (cs : List Char) :
    opensWithSigma (c :: cs) = (c = 'Σ' && !startsCased cs : Bool) := by
  rw [opensWithSigma, List.dropWhile_cons_of_neg h]

theorem lowerSigma_eq_iff {before before' after : List Char} :
    lowerSigma before after = lowerSigma before' after ↔
      startsCased before = startsCased before' ∨ startsCased after = true := by
  have hne : 'ς' ≠ 'σ' := by decide
  rw [lowerSigma, lowerSigma]
  cases startsCased before <;> cases startsCased before' <;> cases startsCased after <;>
    simp [hne, hne.symm]

theorem lowerFrom_eq_iff (before before' cs : List Char) :
    lowerFrom before cs = lowerFrom before' cs ↔
      startsCased before = startsCased before' ∨ opensWithSigma cs = false := by
  induction cs generalizing before before' with
  | nil => simp [lowerFrom, opensWithSigma]
  | cons c cs ih =>
    rw [lowerFrom_cons, lowerFrom_cons]
    by_cases hc : isCaseIgnorable c
    · have hsigma : c ≠ 'Σ' := by
        rintro rfl
        exact absurd hc (by decide +kernel)
      rw [lowerAt_of_ne _ _ hsigma, lowerAt_of_ne _ _ hsigma, List.append_cancel_left_eq, ih,
        startsCased_cons_of_ignorable hc, startsCased_cons_of_ignorable hc,
        opensWithSigma_cons_of_ignorable hc]
    · have hrest : lowerFrom (c :: before) cs = lowerFrom (c :: before') cs := by
        rw [ih, startsCased_cons_of_not_ignorable hc, startsCased_cons_of_not_ignorable hc]
        exact .inl rfl
      rw [hrest, List.append_cancel_right_eq, opensWithSigma_cons_of_not_ignorable hc]
      by_cases hsigma : c = 'Σ'
      · simp [lowerAt, hsigma, lowerSigma_eq_iff]
      · simp [lowerAt, hsigma]

end LowerFrom

end ShardRouting
