namespace ShardRouting

structure OrderedSet (α : Type) [LT α] where
  toList : List α
  ascending : toList.Pairwise (· < ·)
deriving DecidableEq

namespace OrderedSet

variable {α : Type} [LT α]

instance : Membership α (OrderedSet α) where
  mem s a := a ∈ s.toList

instance (s : OrderedSet α) (a : α) [DecidableEq α] : Decidable (a ∈ s) :=
  inferInstanceAs (Decidable (a ∈ s.toList))

theorem mem_toList {s : OrderedSet α} {a : α} : a ∈ s.toList ↔ a ∈ s := Iff.rfl

def size (s : OrderedSet α) : Nat := s.toList.length

def empty : OrderedSet α := ⟨[], .nil⟩

theorem not_mem_empty (a : α) : a ∉ (empty : OrderedSet α) := List.not_mem_nil

def erase [BEq α] (s : OrderedSet α) (a : α) : OrderedSet α :=
  ⟨s.toList.filter (· != a), s.ascending.filter _⟩

theorem mem_erase [BEq α] [LawfulBEq α] {s : OrderedSet α} {a x : α} :
    x ∈ s.erase a ↔ x ∈ s ∧ x ≠ a := by
  simp [← mem_toList, erase]

variable [LE α] [Std.IsLinearOrder α] [Std.LawfulOrderLT α]

theorem eq_of_not_lt {a b : α} (h₁ : ¬a < b) (h₂ : ¬b < a) : a = b :=
  Std.le_antisymm (Std.not_lt.mp h₂) (Std.not_lt.mp h₁)

theorem eq_of_mem_iff {l m : List α} (hl : l.Pairwise (· < ·)) (hm : m.Pairwise (· < ·))
    (h : ∀ x, x ∈ l ↔ x ∈ m) : l = m := by
  induction l generalizing m with
  | nil =>
    cases m with
    | nil => rfl
    | cons b m => simpa using h b
  | cons a l ih =>
    cases m with
    | nil => simpa using h a
    | cons b m =>
      have ha := List.pairwise_cons.mp hl
      have hb := List.pairwise_cons.mp hm
      have hab : a = b := by
        rcases List.mem_cons.mp ((h a).mp List.mem_cons_self) with hab | hab
        · exact hab
        · rcases List.mem_cons.mp ((h b).mpr List.mem_cons_self) with hba | hba
          · exact hba.symm
          · exact absurd (Std.lt_trans (ha.1 b hba) (hb.1 a hab)) Std.lt_irrefl
      subst hab
      refine congrArg (a :: ·) (ih ha.2 hb.2 fun x => ⟨fun hx => ?_, fun hx => ?_⟩)
      · rcases List.mem_cons.mp ((h x).mp (List.mem_cons_of_mem a hx)) with rfl | hx'
        · exact absurd (ha.1 x hx) Std.lt_irrefl
        · exact hx'
      · rcases List.mem_cons.mp ((h x).mpr (List.mem_cons_of_mem a hx)) with rfl | hx'
        · exact absurd (hb.1 x hx) Std.lt_irrefl
        · exact hx'

theorem ext_mem {s t : OrderedSet α} (h : ∀ x, x ∈ s ↔ x ∈ t) : s = t := by
  obtain ⟨l, hl⟩ := s
  obtain ⟨m, hm⟩ := t
  obtain rfl : l = m := eq_of_mem_iff hl hm h
  rfl

variable [DecidableLT α]

def place (a : α) : List α → List α
  | [] => [a]
  | b :: rest => if a < b then a :: b :: rest else if b < a then b :: place a rest else b :: rest

theorem mem_place {a x : α} {l : List α} : x ∈ place a l ↔ x = a ∨ x ∈ l := by
  induction l with
  | nil => simp [place]
  | cons b rest ih =>
    by_cases h₁ : a < b
    · simp [place, h₁]
    · by_cases h₂ : b < a
      · simp [place, h₁, h₂, ih, or_left_comm]
      · obtain rfl := eq_of_not_lt h₁ h₂
        simp [place, h₁]

theorem pairwise_place (a : α) {l : List α} (h : l.Pairwise (· < ·)) :
    (place a l).Pairwise (· < ·) := by
  induction l with
  | nil => simp [place]
  | cons b rest ih =>
    have hb := List.pairwise_cons.mp h
    by_cases h₁ : a < b
    · rw [place, if_pos h₁, List.pairwise_cons]
      refine ⟨fun x hx => ?_, h⟩
      rcases List.mem_cons.mp hx with rfl | hx
      · exact h₁
      · exact Std.lt_trans h₁ (hb.1 x hx)
    · by_cases h₂ : b < a
      · rw [place, if_neg h₁, if_pos h₂, List.pairwise_cons]
        refine ⟨fun x hx => ?_, ih hb.2⟩
        rcases mem_place.mp hx with rfl | hx
        · exact h₂
        · exact hb.1 x hx
      · rw [place, if_neg h₁, if_neg h₂]
        exact h

def insert (s : OrderedSet α) (a : α) : OrderedSet α :=
  ⟨place a s.toList, pairwise_place a s.ascending⟩

@[simp]
theorem mem_insert {s : OrderedSet α} {a x : α} : x ∈ s.insert a ↔ x = a ∨ x ∈ s := mem_place

def insertAll (s : OrderedSet α) (l : List α) : OrderedSet α :=
  l.foldr (fun a s => s.insert a) s

@[simp]
theorem mem_insertAll {s : OrderedSet α} {l : List α} {x : α} :
    x ∈ s.insertAll l ↔ x ∈ l ∨ x ∈ s := by
  induction l with
  | nil => simp [insertAll]
  | cons a rest ih =>
    have h : s.insertAll (a :: rest) = (s.insertAll rest).insert a := rfl
    rw [h, mem_insert, ih, List.mem_cons, or_assoc]

theorem insertAll_eq_self {s : OrderedSet α} {l : List α} (h : ∀ a ∈ l, a ∈ s) :
    s.insertAll l = s :=
  ext_mem fun x => by rw [mem_insertAll]; exact or_iff_right_of_imp (h x)

def ofList (l : List α) : OrderedSet α := empty.insertAll l

@[simp]
theorem mem_ofList {l : List α} {x : α} : x ∈ ofList l ↔ x ∈ l := by
  rw [ofList, mem_insertAll]
  exact or_iff_left (not_mem_empty x)

theorem ofList_toList (s : OrderedSet α) : ofList s.toList = s :=
  ext_mem fun _ => mem_ofList

end OrderedSet

end ShardRouting
