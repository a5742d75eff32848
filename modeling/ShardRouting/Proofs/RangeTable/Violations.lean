import Mathlib.Data.List.Chain
import ShardRouting.Proofs.RangeTable.Lookup

namespace ShardRouting

namespace RangeTable

def Descends (t : RangeTable) (a b : BucketRange) : Prop :=
  ∃ before after, t = before ++ a :: b :: after ∧
    (before ++ [a]).IsChain (·.start < ·.start) ∧ b.start ≤ a.start

def StartsAtZero (t : RangeTable) : Prop := t.head?.map (·.start) = some 0

inductive Breaks (space : UInt32) (t : RangeTable) : TopologyError → Prop
  | noRanges (empty : t = []) : Breaks space t .noRanges
  | firstStart {r : BucketRange} (first : t.head? = some r) (nonzero : r.start ≠ 0) :
    Breaks space t (.firstRangeNotZero r.start)
  | order (zero : t.StartsAtZero) {a b : BucketRange} (descends : t.Descends a b) :
    Breaks space t (.rangesNotAscending a.start b.start)
  | bound (zero : t.StartsAtZero) (ascending : t.Ascending) {r : BucketRange}
    (last : t.getLast? = some r) (outside : space ≤ r.start) :
    Breaks space t (.rangeOutOfSpace r.start space)

theorem head?_concat {a b : BucketRange} {rest before after : RangeTable}
    (h : b :: rest = before ++ a :: after) : (before ++ [a]).head? = some b := by
  have hhead := congrArg List.head? h
  simpa [List.head?_append] using hhead.symm

theorem descends_cons_cons {a b x y : BucketRange} {rest : RangeTable} :
    Descends (a :: b :: rest) x y ↔
      (b.start ≤ a.start ∧ x = a ∧ y = b) ∨ (a.start < b.start ∧ Descends (b :: rest) x y) := by
  constructor
  · rintro ⟨before, after, h, hchain, hle⟩
    cases before with
    | nil =>
      cases h
      exact .inl ⟨hle, rfl, rfl⟩
    | cons c before =>
      obtain ⟨rfl, hrest⟩ := List.cons.inj h
      rw [List.cons_append, List.isChain_cons] at hchain
      exact .inr ⟨hchain.1 b (head?_concat hrest), before, after, hrest, hchain.2, hle⟩
  · rintro (⟨hle, rfl, rfl⟩ | ⟨hlt, before, after, h, hchain, hle⟩)
    · exact ⟨[], rest, rfl, .singleton _, hle⟩
    · refine ⟨a :: before, after, by rw [h]; rfl, ?_, hle⟩
      rw [List.cons_append, List.isChain_cons]
      refine ⟨?_, hchain⟩
      intro z hz
      obtain rfl := Option.some.inj ((head?_concat h).symm.trans hz)
      exact hlt

theorem firstDescent?_eq_some_iff (t : RangeTable) (p : Bucket × Bucket) :
    t.firstDescent? = some p ↔ ∃ a b, t.Descends a b ∧ p = (a.start, b.start) := by
  induction t with
  | nil => simp [firstDescent?, Descends]
  | cons a rest ih =>
    cases rest with
    | nil => simp [firstDescent?, Descends, List.cons_eq_append_iff]
    | cons b rest =>
      rw [firstDescent?]
      simp only [descends_cons_cons]
      split
      · next h =>
        have hnot : ¬a.start < b.start := UInt32.not_lt.mpr h
        simp only [h, hnot, true_and, false_and, or_false, Option.some.injEq]
        constructor
        · intro hp
          exact ⟨a, b, ⟨rfl, rfl⟩, hp.symm⟩
        · rintro ⟨x, y, ⟨rfl, rfl⟩, hp⟩
          exact hp.symm
      · next h =>
        have hlt : a.start < b.start := UInt32.not_le.mp h
        simp [h, hlt, ih]

theorem violation?_cons {r last : BucketRange} {rest : RangeTable} (space : UInt32)
    (hlast : (r :: rest).getLast? = some last) :
    violation? space (r :: rest) =
      if r.start ≠ 0 then some (.firstRangeNotZero r.start)
      else
        match firstDescent? (r :: rest) with
        | some (previous, next) => some (.rangesNotAscending previous next)
        | none => if space ≤ last.start then some (.rangeOutOfSpace last.start space) else none := by
  rw [violation?, hlast]
  rfl

theorem violation?_eq_some_iff (space : UInt32) (t : RangeTable) (e : TopologyError) :
    t.violation? space = some e ↔ t.Breaks space e := by
  cases t with
  | nil =>
    constructor
    · rintro ⟨⟩
      exact .noRanges rfl
    · rintro (_ | ⟨⟨⟩, -⟩ | ⟨⟨⟩, -⟩ | ⟨⟨⟩, -, -, -⟩)
      rfl
  | cons r rest =>
    have hlast := List.getLast?_eq_some_getLast (List.cons_ne_nil r rest)
    have hdescent := firstDescent?_eq_some_iff (r :: rest)
    have hascending := firstDescent?_eq_none_iff (r :: rest)
    rw [violation?_cons space hlast]
    constructor
    · intro h
      split at h
      · next hr =>
        cases h
        exact .firstStart rfl hr
      next hr =>
      have hzero : StartsAtZero (r :: rest) := congrArg some (not_not.mp hr)
      split at h
      · next hd =>
        obtain ⟨a, b, hab, hp⟩ := (hdescent _).mp hd
        cases hp
        cases h
        exact .order hzero hab
      · next hd =>
        obtain ⟨hs, he⟩ := Option.ite_none_right_eq_some.mp h
        cases he
        exact .bound hzero (hascending.mp hd) hlast hs
    · intro h
      cases h with
      | noRanges empty => exact absurd empty (List.cons_ne_nil r rest)
      | firstStart first nonzero =>
        cases first
        rw [if_pos nonzero]
      | order zero descends =>
        have hr : r.start = 0 := Option.some.inj zero
        rw [if_neg (not_not_intro hr), (hdescent _).mpr ⟨_, _, descends, rfl⟩]
      | bound zero ascending last outside =>
        have hr : r.start = 0 := Option.some.inj zero
        rw [hlast] at last
        cases last
        rw [if_neg (not_not_intro hr), hascending.mpr ascending]
        exact if_pos outside

end RangeTable

end ShardRouting
