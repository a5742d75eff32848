import ShardRouting.Ordered.Set

/-!
Finite maps from a linear order, held as lists of entries with strictly ascending keys. A map has
one representation, so two maps that answer every look-up alike are equal (`OrderedMap.ext_get?`).
-/

namespace ShardRouting

structure OrderedMap (κ ν : Type) [LT κ] where
  entries : List (κ × ν)
  ascending : entries.Pairwise (fun a b => a.1 < b.1)
deriving DecidableEq

namespace OrderedMap

variable {κ ν μ : Type} [LT κ]

def empty : OrderedMap κ ν := ⟨[], .nil⟩

def size (m : OrderedMap κ ν) : Nat := m.entries.length

def keys (m : OrderedMap κ ν) : OrderedSet κ :=
  ⟨m.entries.map Prod.fst, List.pairwise_map.mpr m.ascending⟩

def values (m : OrderedMap κ ν) : List ν := m.entries.map Prod.snd

def mapValues (f : κ → ν → μ) (m : OrderedMap κ ν) : OrderedMap κ μ :=
  ⟨m.entries.map fun e => (e.1, f e.1 e.2), List.pairwise_map.mpr m.ascending⟩

def filterMap (f : κ → ν → Option μ) (m : OrderedMap κ ν) : OrderedMap κ μ :=
  ⟨m.entries.filterMap fun e => (f e.1 e.2).map (e.1, ·), by
    refine List.pairwise_filterMap.mpr (m.ascending.imp ?_)
    intro a b hab a' ha b' hb
    obtain ⟨_, _, rfl⟩ := Option.map_eq_some_iff.mp ha
    obtain ⟨_, _, rfl⟩ := Option.map_eq_some_iff.mp hb
    exact hab⟩

section Lookup

variable [DecidableEq κ]

def get? (m : OrderedMap κ ν) (k : κ) : Option ν :=
  (m.entries.find? (·.1 = k)).map Prod.snd

def contains (m : OrderedMap κ ν) (k : κ) : Bool := (m.get? k).isSome

def erase (m : OrderedMap κ ν) (k : κ) : OrderedMap κ ν :=
  ⟨m.entries.filter (·.1 ≠ k), m.ascending.filter _⟩

end Lookup

section Placement

variable [DecidableLT κ]

def place (e : κ × ν) : List (κ × ν) → List (κ × ν)
  | [] => [e]
  | d :: rest =>
    if e.1 < d.1 then e :: d :: rest else if d.1 < e.1 then d :: place e rest else e :: rest

theorem mem_place {e x : κ × ν} {l : List (κ × ν)} (h : x ∈ place e l) : x = e ∨ x ∈ l := by
  induction l with
  | nil => simpa [place] using h
  | cons d rest ih =>
    rw [place] at h
    by_cases h₁ : e.1 < d.1
    · simpa [h₁] using h
    · by_cases h₂ : d.1 < e.1
      · rw [if_neg h₁, if_pos h₂, List.mem_cons] at h
        rcases h with rfl | h
        · exact .inr List.mem_cons_self
        · exact (ih h).imp_right (List.mem_cons_of_mem d)
      · rw [if_neg h₁, if_neg h₂, List.mem_cons] at h
        exact h.imp_right (List.mem_cons_of_mem d)

end Placement

variable [LE κ] [Std.IsLinearOrder κ] [Std.LawfulOrderLT κ]

omit [Std.IsLinearOrder κ] in
theorem eq_of_mem_of_mem {m : OrderedMap κ ν} {k : κ} {v w : ν} (hv : (k, v) ∈ m.entries)
    (hw : (k, w) ∈ m.entries) : v = w := by
  obtain ⟨l, hl⟩ := m
  dsimp only at hv hw
  induction l with
  | nil => exact absurd hv List.not_mem_nil
  | cons e rest ih =>
    have he := List.pairwise_cons.mp hl
    rcases List.mem_cons.mp hv with hv' | hv' <;> rcases List.mem_cons.mp hw with hw' | hw'
    · exact (Prod.mk.inj (hv'.trans hw'.symm)).2
    · exact absurd (he.1 _ hw') (hv' ▸ Std.lt_irrefl)
    · exact absurd (he.1 _ hv') (hw' ▸ Std.lt_irrefl)
    · exact ih he.2 hv' hw'

omit [Std.IsLinearOrder κ] in
theorem get?_eq_some_iff [DecidableEq κ] {m : OrderedMap κ ν} {k : κ} {v : ν} :
    m.get? k = some v ↔ (k, v) ∈ m.entries := by
  constructor
  · intro h
    obtain ⟨e, he, rfl⟩ := Option.map_eq_some_iff.mp h
    have hk : e.1 = k := by simpa using List.find?_some he
    exact hk ▸ List.mem_of_find?_eq_some he
  · intro h
    cases hf : m.entries.find? (·.1 = k) with
    | none => simpa using List.find?_eq_none.mp hf _ h
    | some e =>
      have hk : e.1 = k := by simpa using List.find?_some hf
      have he : (k, e.2) ∈ m.entries := hk ▸ List.mem_of_find?_eq_some hf
      rw [get?, hf, Option.map_some, eq_of_mem_of_mem he h]

omit [Std.IsLinearOrder κ] in
theorem mem_keys_iff [DecidableEq κ] {m : OrderedMap κ ν} {k : κ} :
    k ∈ m.keys ↔ ∃ v, m.get? k = some v := by
  simp only [get?_eq_some_iff, ← OrderedSet.mem_toList, keys, List.mem_map, Prod.exists,
    exists_and_right, exists_eq_right]

omit [Std.IsLinearOrder κ] in
theorem get?_filterMap [DecidableEq κ] (f : κ → ν → Option μ) (m : OrderedMap κ ν) (k : κ) :
    (m.filterMap f).get? k = (m.get? k).bind (f k) := by
  apply Option.ext
  intro w
  rw [get?_eq_some_iff, filterMap, List.mem_filterMap, Option.bind_eq_some_iff]
  constructor
  · rintro ⟨⟨j, v⟩, hmem, hf⟩
    obtain ⟨_, hw, heq⟩ := Option.map_eq_some_iff.mp hf
    cases heq
    exact ⟨v, get?_eq_some_iff.mpr hmem, hw⟩
  · rintro ⟨v, hv, hw⟩
    exact ⟨(k, v), get?_eq_some_iff.mp hv, by rw [hw, Option.map_some]⟩

omit [Std.IsLinearOrder κ] in
theorem get?_mapValues [DecidableEq κ] (f : κ → ν → μ) (m : OrderedMap κ ν) (k : κ) :
    (m.mapValues f).get? k = (m.get? k).map (f k) := by
  apply Option.ext
  intro w
  rw [get?_eq_some_iff, mapValues, List.mem_map, Option.map_eq_some_iff]
  constructor
  · rintro ⟨⟨j, v⟩, hmem, heq⟩
    cases heq
    exact ⟨v, get?_eq_some_iff.mpr hmem, rfl⟩
  · rintro ⟨v, hv, rfl⟩
    exact ⟨(k, v), get?_eq_some_iff.mp hv, rfl⟩

variable [DecidableLT κ]

theorem pairwise_place (e : κ × ν) {l : List (κ × ν)} (h : l.Pairwise (fun a b => a.1 < b.1)) :
    (place e l).Pairwise (fun a b => a.1 < b.1) := by
  induction l with
  | nil => simp [place]
  | cons d rest ih =>
    have hd := List.pairwise_cons.mp h
    by_cases h₁ : e.1 < d.1
    · rw [place, if_pos h₁, List.pairwise_cons]
      refine ⟨fun x hx => ?_, h⟩
      rcases List.mem_cons.mp hx with rfl | hx
      · exact h₁
      · exact Std.lt_trans h₁ (hd.1 x hx)
    · by_cases h₂ : d.1 < e.1
      · rw [place, if_neg h₁, if_pos h₂, List.pairwise_cons]
        refine ⟨fun x hx => ?_, ih hd.2⟩
        rcases mem_place hx with rfl | hx
        · exact h₂
        · exact hd.1 x hx
      · rw [place, if_neg h₁, if_neg h₂, List.pairwise_cons]
        have heq : e.1 = d.1 := OrderedSet.eq_of_not_lt h₁ h₂
        exact ⟨fun x hx => heq ▸ hd.1 x hx, hd.2⟩

def insert (m : OrderedMap κ ν) (k : κ) (v : ν) : OrderedMap κ ν :=
  ⟨place (k, v) m.entries, pairwise_place (k, v) m.ascending⟩

variable [DecidableEq κ]

def insertNew (m : OrderedMap κ ν) (k : κ) (v : ν) : OrderedMap κ ν :=
  if m.contains k then m else m.insert k v

def ofList (l : List (κ × ν)) : OrderedMap κ ν :=
  l.foldr (fun e m => m.insertNew e.1 e.2) empty

omit [DecidableLT κ] in
theorem ext_get? {m n : OrderedMap κ ν} (h : ∀ k, m.get? k = n.get? k) : m = n := by
  have hm : ∀ k v, (k, v) ∈ m.entries ↔ (k, v) ∈ n.entries := by
    intro k v
    rw [← get?_eq_some_iff, ← get?_eq_some_iff, h]
  have hk : m.keys = n.keys := by
    apply OrderedSet.ext_mem
    intro k
    simp only [← OrderedSet.mem_toList, keys, List.mem_map, Prod.exists, exists_and_right,
      exists_eq_right, hm]
  have hv : ∀ p : OrderedMap κ ν, p.entries.map some =
      p.keys.toList.map fun k => (p.get? k).map (k, ·) := by
    intro p
    rw [keys, List.map_map]
    apply List.map_congr_left
    intro e he
    rw [Function.comp_apply, get?_eq_some_iff.mpr he, Option.map_some]
  have he : m.entries.map some = n.entries.map some := by
    rw [hv m, hv n, hk]
    simp only [h]
  obtain ⟨l, hl⟩ := m
  obtain ⟨r, hr⟩ := n
  obtain rfl : l = r := (List.map_inj_right fun _ _ => Option.some.inj).mp he
  rfl

omit [LE κ] [Std.IsLinearOrder κ] [Std.LawfulOrderLT κ] [DecidableLT κ] in
theorem contains_eq_false_iff {m : OrderedMap κ ν} {k : κ} :
    m.contains k = false ↔ m.get? k = none := by
  rw [contains, Option.isSome_eq_false_iff, Option.isNone_iff_eq_none]

omit [Std.IsLinearOrder κ] [DecidableLT κ] in
theorem get?_erase (m : OrderedMap κ ν) (k j : κ) :
    (m.erase k).get? j = if j = k then none else m.get? j := by
  apply Option.ext
  intro v
  rw [get?_eq_some_iff]
  split
  · next h => simp [erase, h]
  · next h => simp [erase, h, get?_eq_some_iff]

omit [DecidableEq κ] in
theorem mem_place_iff {e x : κ × ν} {l : List (κ × ν)}
    (h : l.Pairwise (fun a b => a.1 < b.1)) : x ∈ place e l ↔ x = e ∨ x ∈ l ∧ x.1 ≠ e.1 := by
  induction l with
  | nil => simp [place]
  | cons d rest ih =>
    have hd := List.pairwise_cons.mp h
    by_cases h₁ : e.1 < d.1
    · have hne : ∀ y ∈ d :: rest, y.1 ≠ e.1 := by
        intro y hy heq
        rcases List.mem_cons.mp hy with rfl | hy
        · exact Std.lt_irrefl (heq ▸ h₁)
        · exact Std.lt_irrefl (Std.lt_trans h₁ (heq ▸ hd.1 y hy))
      rw [place, if_pos h₁, List.mem_cons]
      exact or_congr_right ⟨fun hx => ⟨hx, hne x hx⟩, And.left⟩
    · by_cases h₂ : d.1 < e.1
      · have hne : d.1 ≠ e.1 := fun heq => Std.lt_irrefl (heq ▸ h₂)
        rw [place, if_neg h₁, if_pos h₂, List.mem_cons, ih hd.2, List.mem_cons]
        constructor
        · rintro (rfl | rfl | ⟨hx, hxe⟩)
          · exact .inr ⟨.inl rfl, hne⟩
          · exact .inl rfl
          · exact .inr ⟨.inr hx, hxe⟩
        · rintro (rfl | ⟨rfl | hx, hxe⟩)
          · exact .inr (.inl rfl)
          · exact .inl rfl
          · exact .inr (.inr ⟨hx, hxe⟩)
      · have heq : e.1 = d.1 := OrderedSet.eq_of_not_lt h₁ h₂
        have hne : ∀ y ∈ rest, y.1 ≠ e.1 := fun y hy hye =>
          Std.lt_irrefl (hye.trans heq ▸ hd.1 y hy)
        rw [place, if_neg h₁, if_neg h₂, List.mem_cons, List.mem_cons]
        constructor
        · rintro (rfl | hx)
          · exact .inl rfl
          · exact .inr ⟨.inr hx, hne x hx⟩
        · rintro (rfl | ⟨rfl | hx, hxe⟩)
          · exact .inl rfl
          · exact absurd heq.symm hxe
          · exact .inr hx

theorem get?_insert (m : OrderedMap κ ν) (k j : κ) (v : ν) :
    (m.insert k v).get? j = if j = k then some v else m.get? j := by
  apply Option.ext
  intro w
  rw [get?_eq_some_iff, insert, mem_place_iff m.ascending]
  split
  · next h => simp [h, eq_comm]
  · next h => simp [h, get?_eq_some_iff]

theorem get?_insertNew (m : OrderedMap κ ν) (k j : κ) (v : ν) :
    (m.insertNew k v).get? j = (m.get? j).or (if j = k then some v else none) := by
  rw [insertNew]
  split
  · next h =>
    split
    · next hj =>
      obtain ⟨w, hw⟩ := Option.isSome_iff_exists.mp h
      rw [hj, hw, Option.some_or]
    · rw [Option.or_none]
  · next h =>
    rw [get?_insert]
    split
    · next hj => rw [hj, contains_eq_false_iff.mp (Bool.eq_false_iff.mpr h), Option.none_or]
    · rw [Option.or_none]

theorem ofList_entries (m : OrderedMap κ ν) : ofList m.entries = m := by
  apply ext_get?
  intro k
  obtain ⟨l, hl⟩ := m
  induction l with
  | nil => rfl
  | cons e rest ih =>
    have he := List.pairwise_cons.mp hl
    have hrest : (ofList rest).get? k = (rest.find? (·.1 = k)).map Prod.snd := ih he.2
    change ((ofList rest).insertNew e.1 e.2).get? k = ((e :: rest).find? (·.1 = k)).map Prod.snd
    rw [get?_insertNew, hrest, List.find?_cons]
    by_cases hk : e.1 = k
    · have hnone : rest.find? (·.1 = k) = none := by
        apply List.find?_eq_none.mpr
        intro d hd
        simpa using fun hdk : d.1 = k => Std.lt_irrefl (hk.trans hdk.symm ▸ he.1 d hd)
      simp [hnone, hk]
    · simp [hk, Ne.symm hk]

theorem get?_ofList_cons (e : κ × ν) (l : List (κ × ν)) (k : κ) :
    (ofList (e :: l)).get? k = ((ofList l).get? k).or (if k = e.1 then some e.2 else none) :=
  get?_insertNew (ofList l) e.1 k e.2

theorem get?_ofList_eq_none_iff {l : List (κ × ν)} {k : κ} :
    (ofList l).get? k = none ↔ ∀ e ∈ l, e.1 ≠ k := by
  induction l with
  | nil => simp [ofList, empty, get?]
  | cons e rest ih =>
    rw [get?_ofList_cons, Option.or_eq_none_iff, ih, List.forall_mem_cons, and_comm]
    simp [eq_comm]

theorem get?_ofList_eq_some_iff {l : List (κ × ν)} {k : κ} {v : ν} :
    (ofList l).get? k = some v ↔
      ∃ before after, l = before ++ (k, v) :: after ∧ ∀ e ∈ after, e.1 ≠ k := by
  induction l with
  | nil => simp [ofList, empty, get?]
  | cons e rest ih =>
    rw [get?_ofList_cons, Option.or_eq_some_iff, ih, get?_ofList_eq_none_iff]
    constructor
    · rintro (⟨before, after, rfl, hlast⟩ | ⟨hlast, he⟩)
      · exact ⟨e :: before, after, rfl, hlast⟩
      · obtain ⟨hk, hv⟩ := Option.ite_none_right_eq_some.mp he
        have hentry : e = (k, v) := Prod.ext hk.symm (Option.some.inj hv)
        exact ⟨[], rest, by rw [hentry, List.nil_append], hlast⟩
    · rintro ⟨before, after, hsplit, hlast⟩
      cases before with
      | nil =>
        obtain ⟨rfl, rfl⟩ := List.cons.inj hsplit
        exact .inr ⟨hlast, if_pos rfl⟩
      | cons d before =>
        obtain ⟨rfl, rfl⟩ := List.cons.inj hsplit
        exact .inl ⟨before, after, rfl, hlast⟩

omit [DecidableEq κ] [DecidableLT κ] in
theorem findSome?_entries_eq_some_iff {α : Type} {m : OrderedMap κ ν} {f : κ × ν → Option α}
    {a : α} : m.entries.findSome? f = some a ↔
      ∃ e ∈ m.entries, f e = some a ∧ ∀ d ∈ m.entries, d.1 < e.1 → f d = none := by
  rw [List.findSome?_eq_some_iff]
  constructor
  · rintro ⟨before, e, after, hsplit, he, hnone⟩
    have hasc := m.ascending
    rw [hsplit] at hasc ⊢
    refine ⟨e, by simp, he, ?_⟩
    intro d hd hlt
    rcases List.mem_append.mp hd with hd | hd
    · exact hnone d hd
    · rcases List.mem_cons.mp hd with rfl | hd
      · exact absurd hlt Std.lt_irrefl
      · have hgt := (List.pairwise_cons.mp (List.pairwise_append.mp hasc).2.1).1 d hd
        exact absurd (Std.lt_trans hlt hgt) Std.lt_irrefl
  · rintro ⟨e, hmem, he, hnone⟩
    obtain ⟨before, after, hsplit⟩ := List.append_of_mem hmem
    have hasc := m.ascending
    rw [hsplit] at hasc hnone
    refine ⟨before, e, after, hsplit, he, ?_⟩
    intro d hd
    exact hnone d (List.mem_append_left _ hd)
      ((List.pairwise_append.mp hasc).2.2 d hd e List.mem_cons_self)

end OrderedMap

end ShardRouting
