import ShardRouting.Proofs.Query.Totals

namespace ShardRouting

theorem OrderedMap.findSome?_entries {κ ν α : Type} [LT κ] [LE κ] [Std.LawfulOrderLT κ]
    [DecidableEq κ] (m : OrderedMap κ ν) (k : κ) (f : ν → Option α) :
    m.entries.findSome? (fun e => if e.1 = k then f e.2 else none) = (m.get? k).bind f := by
  obtain ⟨l, hl⟩ := m
  rw [OrderedMap.get?]
  dsimp only
  induction l with
  | nil => rfl
  | cons e rest ih =>
    obtain ⟨hfirst, hrest⟩ := List.pairwise_cons.mp hl
    rw [List.findSome?_cons, List.find?_cons]
    by_cases hk : e.1 = k
    · have hnone : rest.findSome? (fun e => if e.1 = k then f e.2 else none) = none := by
        apply List.findSome?_eq_none_iff.mpr
        intro d hd
        have hne : d.1 ≠ k := fun hdk => Std.lt_irrefl (hk.trans hdk.symm ▸ hfirst d hd)
        rw [if_neg hne]
      cases hf : f e.2 <;> simp [hk, hf, hnone]
    · simp [hk, ih hrest]

namespace Includes

def body? (id : String) (reports : List (String × Option Json)) : Option Json :=
  reports.findSome? fun e => if e.1 = id then e.2 else none

theorem body?_concat (id : String) (reports : List (String × Option Json))
    (e : String × Option Json) :
    body? id (reports ++ [e]) = (body? id reports).or (if e.1 = id then e.2 else none) := by
  rw [body?, List.findSome?_append, List.findSome?_singleton, body?]

theorem found_add_absence (i : Includes) (kind : IncludeKind) (id : String) :
    (i.add kind id none).found = i.found := by
  rw [add]
  split <;> rfl

theorem mem_missing_add_absence (i : Includes) (kind : IncludeKind) (id x : String) :
    x ∈ (i.add kind id none).missing ↔ x ∈ i.missing ∨ x = id ∧ i.found.contains id = false := by
  rw [add]
  split
  · next hfound => simp [hfound]
  · next hfound => simp [hfound, or_comm]

structure Settles (kind : IncludeKind) (reports : List (String × Option Json)) (i : Includes) :
    Prop where
  found : ∀ id, i.found.get? id = (body? id reports).map (.wrap kind id)
  missing : ∀ id, id ∈ i.missing ↔ id ∈ reports.map Prod.fst ∧ body? id reports = none

namespace Settles

variable {kind : IncludeKind} {reports : List (String × Option Json)} {i : Includes}

theorem empty (kind : IncludeKind) : Settles kind [] .empty where
  found _ := rfl
  missing id := by simp [Includes.empty, OrderedSet.not_mem_empty]

theorem contains_eq (h : Settles kind reports i) (id : String) :
    i.found.contains id = (body? id reports).isSome := by
  rw [OrderedMap.contains, h.found, Option.isSome_map]

theorem add_body (h : Settles kind reports i) (id : String) (data : Json) :
    Settles kind (reports ++ [(id, some data)]) (i.add kind id (some data)) where
  found x := by
    rw [body?_concat, Includes.add, OrderedMap.get?_insertNew, h.found, Option.map_or]
    by_cases hx : x = id
    · simp [hx]
    · simp [hx, Ne.symm hx]
  missing x := by
    rw [body?_concat, Includes.add, OrderedSet.mem_erase, h.missing]
    by_cases hx : x = id
    · simp [hx]
    · simp [hx, Ne.symm hx]

theorem add_absence (h : Settles kind reports i) (id : String) :
    Settles kind (reports ++ [(id, none)]) (i.add kind id none) := by
  have hbody : ∀ x, body? x (reports ++ [(id, none)]) = body? x reports := by
    intro x
    rw [body?_concat, ite_self, Option.or_none]
  refine ⟨?_, ?_⟩
  · intro x
    rw [hbody, found_add_absence, h.found]
  · intro x
    rw [hbody, mem_missing_add_absence, h.missing, h.contains_eq]
    by_cases hx : x = id
    · simp [hx]
    · simp [hx]

theorem add (h : Settles kind reports i) (id : String) (body : Option Json) :
    Settles kind (reports ++ [(id, body)]) (i.add kind id body) := by
  cases body with
  | some data => exact h.add_body id data
  | none => exact h.add_absence id

theorem addAll (h : Settles kind reports i) (m : OrderedMap String (Option Json)) :
    Settles kind (reports ++ m.entries) (i.addAll kind m) := by
  rw [Includes.addAll]
  generalize m.entries = l
  induction l generalizing reports i with
  | nil =>
    rw [List.append_nil]
    exact h
  | cons e rest ih =>
    rw [List.append_cons]
    exact ih (h.add e.1 e.2)

end Settles

end Includes

def reportsOf (l : List (ShardNumber × QueryResult)) : List (String × Option Json) :=
  l.flatMap fun e => e.2.includes.entries

theorem body?_reportsOf (id : String) (l : List (ShardNumber × QueryResult)) :
    Includes.body? id (reportsOf l) = l.findSome? fun e => (e.2.includes.get? id).join := by
  induction l with
  | nil => rfl
  | cons e rest ih =>
    have hhead := e.2.includes.findSome?_entries id (fun body => body)
    rw [reportsOf, List.flatMap_cons, Includes.body?, List.findSome?_append, hhead,
      List.findSome?_cons, ← ih]
    change (e.2.includes.get? id).join.or _ = _
    cases (e.2.includes.get? id).join <;> rfl

namespace Combination

variable {kind : IncludeKind} {c c' : Combination}

theorem includes_add {s : ShardNumber} {r : QueryResult} (h : (c.add kind s r).value = .ok c') :
    c'.includes = c.includes.addAll kind r.includes := by
  rw [add] at h
  split at h
  · cases h
    rfl
  · cases h
  · cases h

theorem settles_addAll {l : List (ShardNumber × QueryResult)}
    {reports : List (String × Option Json)} (h : c.includes.Settles kind reports)
    (hadd : (c.addAll kind l).value = .ok c') :
    c'.includes.Settles kind (reports ++ reportsOf l) := by
  induction l generalizing c reports with
  | nil =>
    cases hadd
    simpa [reportsOf] using h
  | cons e rest ih =>
    obtain ⟨s, r⟩ := e
    obtain ⟨next, hfirst, hothers⟩ := addAll_cons_eq_ok.mp hadd
    have hnext : next.includes.Settles kind (reports ++ r.includes.entries) := by
      rw [includes_add hfirst]
      exact h.addAll r.includes
    have hrest := ih hnext hothers
    rwa [List.append_assoc] at hrest

end Combination

theorem settles_combine {kind : IncludeKind} {m : OrderedMap ShardNumber QueryResult}
    {r : CombinedResult} (h : (combine kind m).value = .ok r) :
    Includes.Settles kind (reportsOf m.entries) ⟨r.includes, r.missingIncludes⟩ := by
  obtain ⟨c, hadd, rfl⟩ := combine_eq_ok.mp h
  have hopening := Includes.Settles.empty kind
  exact Combination.settles_addAll hopening hadd

def Reports (m : OrderedMap ShardNumber QueryResult) (s : ShardNumber) (id : String)
    (body : Option Json) : Prop :=
  ∃ r, m.get? s = some r ∧ r.includes.get? id = some body

structure SuppliesFirst (m : OrderedMap ShardNumber QueryResult) (s : ShardNumber) (id : String)
    (data : Json) : Prop where
  reported : Reports m s id (some data)
  lowest : ∀ s' data', Reports m s' id (some data') → s ≤ s'

section Reported

variable {m : OrderedMap ShardNumber QueryResult} {id : String}

theorem Reports.unique {s : ShardNumber} {body body' : Option Json} (h : Reports m s id body)
    (h' : Reports m s id body') : body = body' := by
  obtain ⟨r, hr, hbody⟩ := h
  obtain ⟨r', hr', hbody'⟩ := h'
  obtain rfl := Option.some.inj (hr.symm.trans hr')
  exact Option.some.inj (hbody.symm.trans hbody')

theorem SuppliesFirst.unique {s s' : ShardNumber} {data data' : Json}
    (h : SuppliesFirst m s id data) (h' : SuppliesFirst m s' id data') : data = data' := by
  obtain rfl := UInt32.le_antisymm (h.lowest s' data' h'.reported) (h'.lowest s data h.reported)
  exact Option.some.inj (h.reported.unique h'.reported)

theorem mem_reportsOf_iff : id ∈ (reportsOf m.entries).map Prod.fst ↔
    ∃ s body, Reports m s id body := by
  simp only [reportsOf, List.mem_map, List.mem_flatMap, Prod.exists, exists_and_right,
    exists_eq_right, Reports, OrderedMap.get?_eq_some_iff]
  constructor
  · rintro ⟨body, s, r, hr, hbody⟩
    exact ⟨s, body, r, hr, hbody⟩
  · rintro ⟨s, body, r, hr, hbody⟩
    exact ⟨body, s, r, hr, hbody⟩

theorem suppliesFirst_of_body? {data : Json}
    (h : Includes.body? id (reportsOf m.entries) = some data) : ∃ s, SuppliesFirst m s id data := by
  rw [body?_reportsOf] at h
  obtain ⟨low, ⟨s, r⟩, high, hentries, hdata, hlow⟩ := List.findSome?_eq_some_iff.mp h
  have hmem : (s, r) ∈ m.entries := by simp [hentries]
  refine ⟨s, ⟨r, OrderedMap.get?_eq_some_iff.mpr hmem, Option.join_eq_some_iff.mp hdata⟩, ?_⟩
  rintro s' data' ⟨r', hr', hdata'⟩
  have hmem' := OrderedMap.get?_eq_some_iff.mp hr'
  have hascending := m.ascending
  rw [hentries] at hmem' hascending
  rcases List.mem_append.mp hmem' with hbefore | hfrom
  · have hnone := hlow _ hbefore
    rw [hdata'] at hnone
    cases hnone
  · rcases List.mem_cons.mp hfrom with heq | hafter
    · cases heq
      exact UInt32.le_refl s
    · have hhigh := (List.pairwise_cons.mp (List.pairwise_append.mp hascending).2.1).1
      exact UInt32.le_of_lt (hhigh _ hafter)

theorem body?_eq_none_iff : Includes.body? id (reportsOf m.entries) = none ↔
    ¬∃ s data, Reports m s id (some data) := by
  rw [body?_reportsOf, List.findSome?_eq_none_iff]
  constructor
  · rintro hnone ⟨s, data, r, hr, hdata⟩
    have h := hnone _ (OrderedMap.get?_eq_some_iff.mp hr)
    rw [hdata] at h
    cases h
  · intro hnone e he
    cases hbody : (e.2.includes.get? id).join with
    | none => rfl
    | some data =>
      have hr := OrderedMap.get?_eq_some_iff.mpr (show (e.1, e.2) ∈ m.entries from he)
      exact absurd ⟨e.1, data, e.2, hr, Option.join_eq_some_iff.mp hbody⟩ hnone

theorem body?_eq_some_iff {data : Json} :
    Includes.body? id (reportsOf m.entries) = some data ↔ ∃ s, SuppliesFirst m s id data := by
  constructor
  · exact suppliesFirst_of_body?
  · rintro ⟨s, h⟩
    cases hbody : Includes.body? id (reportsOf m.entries) with
    | none => exact absurd ⟨s, data, h.reported⟩ (body?_eq_none_iff.mp hbody)
    | some data' =>
      obtain ⟨s', h'⟩ := suppliesFirst_of_body? hbody
      rw [h.unique h']

end Reported

structure MergesIncludes (kind : IncludeKind) (m : OrderedMap ShardNumber QueryResult)
    (r : CombinedResult) : Prop where
  mem_includes : ∀ id, id ∈ r.includes.keys ↔ ∃ s data, Reports m s id (some data)
  payload : ∀ id payload, r.includes.get? id = some payload ↔
    ∃ s data, SuppliesFirst m s id data ∧ payload = .wrap kind id data
  mem_missing : ∀ id, id ∈ r.missingIncludes ↔
    (∃ s body, Reports m s id body) ∧ ¬∃ s data, Reports m s id (some data)

structure SameBodies (m m' : OrderedMap ShardNumber QueryResult) : Prop where
  bodies : ∀ s id data, Reports m s id (some data) ↔ Reports m' s id (some data)
  ids : ∀ id, (∃ s body, Reports m s id body) ↔ ∃ s body, Reports m' s id body

section Merged

variable {kind : IncludeKind} {m m' : OrderedMap ShardNumber QueryResult} {r r' : CombinedResult}

theorem mergesIncludes_of_combine (h : (combine kind m).value = .ok r) :
    MergesIncludes kind m r := by
  have hsettles := settles_combine h
  have hfound : ∀ id, r.includes.get? id = _ := hsettles.found
  refine ⟨?_, ?_, ?_⟩
  · intro id
    simp only [OrderedMap.mem_keys_iff, hfound, ← Option.isSome_iff_exists, Option.isSome_map]
    rw [Option.isSome_iff_ne_none, ne_eq, body?_eq_none_iff, Classical.not_not]
  · intro id payload
    rw [hfound, Option.map_eq_some_iff]
    constructor
    · rintro ⟨data, hdata, rfl⟩
      obtain ⟨s, hs⟩ := body?_eq_some_iff.mp hdata
      exact ⟨s, data, hs, rfl⟩
    · rintro ⟨s, data, hs, rfl⟩
      exact ⟨data, body?_eq_some_iff.mpr ⟨s, hs⟩, rfl⟩
  · intro id
    rw [← mem_reportsOf_iff, ← body?_eq_none_iff]
    exact hsettles.missing id

theorem SameBodies.suppliesFirst_iff (h : SameBodies m m') (s : ShardNumber) (id : String)
    (data : Json) : SuppliesFirst m s id data ↔ SuppliesFirst m' s id data := by
  constructor
  · rintro ⟨hreported, hlowest⟩
    exact ⟨(h.bodies s id data).mp hreported, fun s' data' h' =>
      hlowest s' data' ((h.bodies s' id data').mpr h')⟩
  · rintro ⟨hreported, hlowest⟩
    exact ⟨(h.bodies s id data).mpr hreported, fun s' data' h' =>
      hlowest s' data' ((h.bodies s' id data').mp h')⟩

theorem MergesIncludes.eq_of_sameBodies (h : MergesIncludes kind m r)
    (h' : MergesIncludes kind m' r') (hsame : SameBodies m m') :
    r'.includes = r.includes ∧ r'.missingIncludes = r.missingIncludes := by
  constructor
  · apply OrderedMap.ext_get?
    intro id
    apply Option.ext
    intro payload
    rw [h.payload, h'.payload]
    simp only [hsame.suppliesFirst_iff]
  · apply OrderedSet.ext_mem
    intro id
    rw [h.mem_missing, h'.mem_missing, hsame.ids id]
    simp only [hsame.bodies]

/-- Every id that a shard reports is either included, with the body of the lowest shard that has
one, or missing, and it does not matter who reports it without a body. -/
theorem includes_found_or_missing (kind : IncludeKind) (h : SumsFit m) :
    ∃ r, (combine kind m).value = .ok r ∧ MergesIncludes kind m r ∧
      (∀ id, id ∈ r.includes.keys → id ∉ r.missingIncludes) ∧
      (∀ id, id ∈ r.includes.keys ∨ id ∈ r.missingIncludes ↔ ∃ s body, Reports m s id body) ∧
      ∀ m', SumsFit m' → SameBodies m m' → ∃ r', (combine kind m').value = .ok r' ∧
        r'.includes = r.includes ∧ r'.missingIncludes = r.missingIncludes := by
  obtain ⟨r, hr, -⟩ := combine_of_sumsFit kind h
  have hmerges := mergesIncludes_of_combine hr
  refine ⟨r, hr, hmerges, ?_, ?_, ?_⟩
  · intro id hfound hmissing
    exact ((hmerges.mem_missing id).mp hmissing).2 ((hmerges.mem_includes id).mp hfound)
  · intro id
    rw [hmerges.mem_includes, hmerges.mem_missing]
    constructor
    · rintro (⟨s, data, hs⟩ | ⟨hreported, -⟩)
      · exact ⟨s, some data, hs⟩
      · exact hreported
    · intro hreported
      by_cases hbody : ∃ s data, Reports m s id (some data)
      · exact .inl hbody
      · exact .inr ⟨hreported, hbody⟩
  · intro m' h' hsame
    obtain ⟨r', hr', -⟩ := combine_of_sumsFit kind h'
    exact ⟨r', hr', hmerges.eq_of_sameBodies (mergesIncludes_of_combine hr') hsame⟩

end Merged

def answerWith (includes : List (String × Option Json)) : QueryResult where
  indexName := "Users/ByName"
  includedPaths := none
  totalResults := 9223372036854775807
  skippedResults := 0
  isStale := false
  indexTimestamp := .epoch
  lastQueryTime := .epoch
  raftCommandIndex := none
  resultEtag := 1
  results := []
  includes := .ofList includes

def promoted : OrderedMap ShardNumber QueryResult :=
  .ofList [(0, answerWith [("users/1", none), ("users/2", none)]),
    (1, answerWith [("users/1", some .null)])]

theorem includes_found_or_missing_promoted :
    SumsFit promoted ∧ ∃ r, (combine .raw promoted).value = .ok r ∧ MergesIncludes .raw promoted r ∧
      (∀ id, id ∈ r.includes.keys → id ∉ r.missingIncludes) ∧
      (∀ id, id ∈ r.includes.keys ∨ id ∈ r.missingIncludes ↔
        ∃ s body, Reports promoted s id body) ∧
      ∀ m', SumsFit m' → SameBodies promoted m' → ∃ r', (combine .raw m').value = .ok r' ∧
        r'.includes = r.includes ∧ r'.missingIncludes = r.missingIncludes :=
  have h : SumsFit promoted := ⟨by decide, by decide⟩
  ⟨h, includes_found_or_missing .raw h⟩

end ShardRouting
