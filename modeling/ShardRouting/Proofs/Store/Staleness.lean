import ShardRouting.Proofs.Store.Run

namespace ShardRouting

namespace Store

def answersTo (s : Store) : List Operation → List (Attempt LoadError Bool)
  | [] => []
  | o :: rest => ((step o).on s).1 :: (s.after o).answersTo rest

def publications (s : Store) : List Operation → List Topology
  | [] => []
  | o :: rest =>
    if ((step o).on s).1 = .ok true then
      (s.after o).current :: (s.after o).publications rest
    else (s.after o).publications rest

theorem publications_cons_cases (s : Store) (o : Operation) (rest : List Operation) :
    (∃ next, ((step o).on s).1 = .ok true ∧ s.after o = opening next ∧ s.version < next.version ∧
      s.publications (o :: rest) = next :: (opening next).publications rest) ∨
    (((step o).on s).1 ≠ .ok true ∧ s.after o = s ∧
      s.publications (o :: rest) = s.publications rest) := by
  rcases step_cases o s with ⟨next, hon, hnext, -⟩ | ⟨answer, hne, hon⟩
  · have hafter : s.after o = opening next := congrArg Prod.snd hon
    have hanswer : ((step o).on s).1 = .ok true := congrArg Prod.fst hon
    refine .inl ⟨next, hanswer, hafter, hnext.newer, ?_⟩
    rw [publications, if_pos hanswer, hafter, opening]
  · have hafter : s.after o = s := congrArg Prod.snd hon
    have hanswer : ((step o).on s).1 ≠ .ok true := congrArg Prod.fst hon ▸ hne
    refine .inr ⟨hanswer, hafter, ?_⟩
    rw [publications, if_neg hanswer, hafter]

theorem publications_ascend (s : Store) (os : List Operation) :
    ((s.current :: s.publications os).map (·.version)).Pairwise (· < ·) := by
  induction os generalizing s with
  | nil => exact List.pairwise_singleton _ _
  | cons o rest ih =>
    rcases s.publications_cons_cases o rest with ⟨next, -, -, hlt, hpub⟩ | ⟨-, hafter, hpub⟩
    · have hnext := ih (opening next)
      rw [hpub, List.map_cons, List.pairwise_cons]
      refine ⟨?_, hnext⟩
      intro v hv
      rcases List.mem_cons.mp hv with rfl | hv
      · exact hlt
      · exact UInt64.lt_trans hlt ((List.pairwise_cons.mp hnext).1 v hv)
    · rw [hpub]
      exact ih s

theorem run_current (s : Store) (os : List Operation) :
    (s.current :: s.publications os).getLast? = some (s.run os).current := by
  induction os generalizing s with
  | nil => rfl
  | cons o rest ih =>
    have hrun : s.run (o :: rest) = (s.after o).run rest := rfl
    rcases s.publications_cons_cases o rest with ⟨next, -, hafter, -, hpub⟩ | ⟨-, hafter, hpub⟩
    · rw [hpub, hrun, hafter, List.getLast?_cons_cons]
      exact ih (opening next)
    · rw [hpub, hrun, hafter]
      exact ih s

theorem publications_eq_nil_iff (s : Store) (os : List Operation) :
    s.publications os = [] ↔ .ok true ∉ s.answersTo os := by
  induction os generalizing s with
  | nil => simp [publications, answersTo]
  | cons o rest ih =>
    rw [answersTo, List.mem_cons, not_or]
    rcases s.publications_cons_cases o rest with ⟨next, hanswer, -, -, hpub⟩ | ⟨hanswer, hafter, hpub⟩
    · simp [hpub, hanswer]
    · rw [hpub, hafter, ih, and_iff_right (Ne.symm hanswer)]

theorem current_of_no_publication {s : Store} {os : List Operation} (h : s.publications os = []) :
    (s.run os).current = s.current := by
  have hlast := s.run_current os
  rw [h] at hlast
  exact (Option.some.inj hlast).symm

theorem version_lt_of_publication {s : Store} {os : List Operation} (h : s.publications os ≠ []) :
    s.version < (s.run os).version := by
  obtain ⟨first, rest, hpub⟩ := List.exists_cons_of_ne_nil h
  have hlast := s.run_current os
  rw [hpub, List.getLast?_cons_cons] at hlast
  have hmem : (s.run os).current ∈ s.publications os := hpub ▸ List.mem_of_getLast? hlast
  have hascend := List.pairwise_cons.mp (s.publications_ascend os)
  exact hascend.1 _ (List.mem_map_of_mem hmem)

theorem version_le_run (s : Store) (os : List Operation) : s.version ≤ (s.run os).version := by
  by_cases h : s.publications os = []
  · have hcurrent := current_of_no_publication h
    exact UInt64.le_of_eq (congrArg (·.version) hcurrent.symm)
  · exact UInt64.le_of_lt (version_lt_of_publication h)

structure TellsStale (s : Store) (os : List Operation) : Prop where
  changed_iff : (s.run os).hasChanged s.version ↔ .ok true ∈ s.answersTo os
  differs_iff : (s.run os).current ≠ s.current ↔ .ok true ∈ s.answersTo os
  refresh_iff : ∀ v, (s.run os).checkClient s.version = .refresh v ↔
    v = (s.run os).version ∧ .ok true ∈ s.answersTo os
  current_iff : (s.run os).checkClient s.version = .current ↔ .ok true ∉ s.answersTo os

theorem tellsStale (s : Store) (os : List Operation) : s.TellsStale os := by
  have hpublished := s.publications_eq_nil_iff os
  by_cases hnone : s.publications os = []
  · have hanswers := hpublished.mp hnone
    have hcurrent := current_of_no_publication hnone
    have hversion : ¬s.version < (s.run os).version := by
      rw [version, version, hcurrent]
      exact UInt64.lt_irrefl _
    constructor <;> simp [hasChanged, checkClient, hanswers, hcurrent, hversion]
  · have hanswers := not_not.mp (hpublished.not.mp hnone)
    have hversion := version_lt_of_publication hnone
    have hcurrent : (s.run os).current ≠ s.current := by
      intro heq
      rw [version, version, heq] at hversion
      exact UInt64.lt_irrefl _ hversion
    constructor <;> simp [hasChanged, checkClient, hanswers, hcurrent, hversion, eq_comm]

/-- Between two moments of a run a version goes stale exactly when something is published, and no
two topologies that the run publishes, the first one included, have one version. -/
theorem stale_iff_published (t₀ : Topology) (before between : List Operation) :
    ((opening t₀).run before).TellsStale between ∧
      ((t₀ :: (opening t₀).publications (before ++ between)).map (·.version)).Pairwise (· < ·) :=
  ⟨tellsStale _ between, (opening t₀).publications_ascend (before ++ between)⟩

end Store

end ShardRouting
