import ShardRouting.Proofs.Store.Staleness

namespace ShardRouting

namespace Store

inductive Refreshed (s : Store) : Fetch → Attempt LoadError Bool → Store → Prop
  | published {t : Topology} (succeeds : s.Succeeds t) : Refreshed s (.ok t) (.ok true) (opening t)
  | notAhead {t : Topology} (reached : t.version ≤ s.version) : Refreshed s (.ok t) (.ok false) s
  | mismatched {t : Topology} (newer : s.version < t.version) (other : t.space ≠ s.current.space) :
    Refreshed s (.ok t) (.error (.refused (.refused (.spaceMismatch s.current.space t.space)))) s
  | failed {e : LoadError} : Refreshed s (.error e) (.error (.refused e)) s

theorem refreshed (s : Store) (f : Fetch) :
    s.Refreshed f ((refresh f).on s).1 ((refresh f).on s).2 := by
  rw [refresh_on]
  cases f with
  | error e => exact .failed
  | ok t =>
    dsimp only
    split
    · next hv => exact .notAhead hv
    · next hv =>
      have hnewer := UInt64.not_le.mp hv
      split
      · next hs => exact .mismatched hnewer hs
      · next hs => exact .published ⟨hnewer, not_not.mp hs⟩

namespace Refreshed

variable {s s' : Store} {f : Fetch} {answer : Attempt LoadError Bool}

theorem replaced_iff (h : s.Refreshed f answer s') : answer = .ok true ↔ s'.current ≠ s.current := by
  cases h with
  | published succeeds =>
    refine iff_of_true rfl ?_
    intro heq
    have hnewer := succeeds.newer
    rw [version, ← heq] at hnewer
    exact UInt64.lt_irrefl _ hnewer
  | notAhead reached => simp
  | mismatched newer other => simp
  | failed => simp

theorem notAhead_iff (h : s.Refreshed f answer s') :
    answer = .ok false ↔ ∃ t, f = .ok t ∧ t.version ≤ s.version := by
  cases h with
  | published succeeds => simpa using succeeds.newer
  | notAhead reached => simpa using reached
  | mismatched newer other => simpa using newer
  | failed => simp

end Refreshed

structure Decides (s : Store) (f : Fetch) : Prop where
  outcome : s.Refreshed f ((refresh f).on s).1 ((refresh f).on s).2
  replaced_iff : ((refresh f).on s).1 = .ok true ↔ (s.after (.refresh f)).current ≠ s.current
  notAhead_iff : ((refresh f).on s).1 = .ok false ↔ ∃ t, f = .ok t ∧ t.version ≤ s.version

theorem decides (s : Store) (f : Fetch) : s.Decides f where
  outcome := s.refreshed f
  replaced_iff := (s.refreshed f).replaced_iff
  notAhead_iff := (s.refreshed f).notAhead_iff

def FirstNewest (s : Store) (fs : List Fetch) (t : Topology) : Prop :=
  ∃ before after, fs = before ++ .ok t :: after ∧ s.Succeeds t ∧
    (∀ u, .ok u ∈ before → s.Succeeds u → u.version < t.version) ∧
    ∀ u, .ok u ∈ after → s.Succeeds u → u.version ≤ t.version

inductive Converged (s : Store) (fs : List Fetch) : Store → Prop
  | kept (none : ∀ t, .ok t ∈ fs → ¬s.Succeeds t) : Converged s fs s
  | newest {t : Topology} (first : s.FirstNewest fs t) : Converged s fs (opening t)

namespace Converged

variable {s s' : Store} {fs : List Fetch}

theorem space_eq (h : s.Converged fs s') : s'.current.space = s.current.space := by
  cases h with
  | kept none => rfl
  | newest first =>
    obtain ⟨-, -, -, succeeds, -⟩ := first
    exact succeeds.space

theorem version_le (h : s.Converged fs s') : s.version ≤ s'.version := by
  cases h with
  | kept none => exact UInt64.le_refl _
  | newest first =>
    obtain ⟨-, -, -, succeeds, -⟩ := first
    exact UInt64.le_of_lt succeeds.newer

theorem bound (h : s.Converged fs s') {u : Topology} (hu : .ok u ∈ fs) (hs : s.Succeeds u) :
    u.version ≤ s'.version := by
  cases h with
  | kept none => exact absurd hs (none u hu)
  | newest first =>
    obtain ⟨before, after, rfl, -, hbefore, hafter⟩ := first
    rcases List.mem_append.mp hu with hu | hu
    · exact UInt64.le_of_lt (hbefore u hu hs)
    · rcases List.mem_cons.mp hu with heq | hu
      · exact Except.ok.inj heq ▸ UInt64.le_refl _
      · exact hafter u hu hs

theorem snoc_of_kept (h : s.Converged fs s') {f : Fetch}
    (hf : ∀ u, f = .ok u → s.Succeeds u → u.version ≤ s'.version) :
    s.Converged (fs ++ [f]) s' := by
  cases h with
  | kept none =>
    refine .kept fun u hu => ?_
    rcases List.mem_append.mp hu with hu | hu
    · exact none u hu
    · intro hs
      have hle := hf u (List.mem_singleton.mp hu).symm hs
      exact absurd hs.newer (UInt64.not_lt.mpr hle)
  | newest first =>
    obtain ⟨before, after, rfl, succeeds, hbefore, hafter⟩ := first
    refine .newest ⟨before, after ++ [f], by simp, succeeds, hbefore, ?_⟩
    intro u hu hs
    rcases List.mem_append.mp hu with hu | hu
    · exact hafter u hu hs
    · exact hf u (List.mem_singleton.mp hu).symm hs

theorem snoc (h : s.Converged fs s') {f : Fetch} {answer : Attempt LoadError Bool} {s'' : Store}
    (hf : s'.Refreshed f answer s'') : s.Converged (fs ++ [f]) s'' := by
  cases hf with
  | @published t succeeds =>
    have hnewer : s.version < t.version := Std.lt_of_le_of_lt h.version_le succeeds.newer
    refine .newest ⟨fs, [], rfl, ⟨hnewer, succeeds.space.trans h.space_eq⟩, ?_, by simp⟩
    intro u hu hs
    exact Std.lt_of_le_of_lt (h.bound hu hs) succeeds.newer
  | notAhead reached =>
    apply h.snoc_of_kept
    rintro u ⟨rfl⟩ -
    exact reached
  | mismatched newer other =>
    apply h.snoc_of_kept
    rintro u ⟨rfl⟩ hs
    exact absurd (hs.space.trans h.space_eq.symm) other
  | failed =>
    apply h.snoc_of_kept
    rintro u ⟨⟩

end Converged

def polled (s : Store) (fs : List Fetch) : Store := s.run (fs.map .refresh)

theorem polled_concat (s : Store) (fs : List Fetch) (f : Fetch) :
    s.polled (fs ++ [f]) = (s.polled fs).after (.refresh f) := by
  simp only [polled, run, List.map_append, List.foldl_append]
  rfl

theorem converged_polled (s : Store) (fs : List Fetch) : s.Converged fs (s.polled fs) := by
  induction fs using List.reverseRecOn with
  | nil => exact .kept (by simp)
  | append_singleton fs f ih =>
    rw [polled_concat]
    exact ih.snoc ((s.polled fs).refreshed f)

theorem getElem?_watch (s : Store) {fs : List Fetch} {i : Nat} (h : i < fs.length) :
    (s.watch fs)[i]? = some (s.polled (fs.take (i + 1))) := by
  induction fs generalizing s i with
  | nil => exact absurd h (Nat.not_lt_zero i)
  | cons f rest ih =>
    cases i with
    | zero => rfl
    | succ i => exact ih (s.after (.refresh f)) (Nat.lt_of_succ_lt_succ h)

theorem watch_ascends (s : Store) (fs : List Fetch) :
    (s :: s.watch fs).Pairwise (·.version ≤ ·.version) := by
  induction fs generalizing s with
  | nil => exact List.pairwise_singleton _ _
  | cons f rest ih =>
    have hrest := ih (s.after (.refresh f))
    have hle := s.version_le_run [.refresh f]
    rw [watch, List.pairwise_cons]
    refine ⟨?_, hrest⟩
    intro s' hs'
    rcases List.mem_cons.mp hs' with rfl | hs'
    · exact hle
    · exact UInt64.le_trans hle ((List.pairwise_cons.mp hrest).1 s' hs')

def refreshFrom (ask : Action LoadError Topology) : Action LoadError Bool := do
  refresh (.ok (← ask))

def answerAfter (during : List Operation) (f : Fetch) : Action LoadError Topology := do
  modify (·.run during)
  Attempt.ofExcept f

theorem refreshFrom_on (during : List Operation) (f : Fetch) (s : Store) :
    (refreshFrom (answerAfter during f)).on s = (refresh f).on (s.run during) := by
  simp only [refreshFrom, answerAfter, Action.on_bind, Action.on_modify, Action.on_lift]
  cases f <;> rfl

/-- Polls bring a store to the first of the newest topologies that fit it and never back, whatever
came before; what changes while a source is asked counts as there before. -/
theorem refreshing_converges (s : Store) (fs : List Fetch) :
    s.Converged fs (s.polled fs) ∧
    (∀ i < fs.length, ∃ s', (s.watch fs)[i]? = some s' ∧ s.Converged (fs.take (i + 1)) s') ∧
    (s :: s.watch fs).Pairwise (·.version ≤ ·.version) ∧
    (∀ f, s.Decides f) ∧
    (∀ during f, (refreshFrom (answerAfter during f)).on s = (refresh f).on (s.run during)) ∧
    ∀ during t, t.version ≤ (s.run during).version →
      (refreshFrom (answerAfter during (.ok t))).on s = (.ok false, s.run during) := by
  refine ⟨s.converged_polled fs, ?_, s.watch_ascends fs, s.decides, ?_, ?_⟩
  · intro i hi
    exact ⟨_, s.getElem?_watch hi, s.converged_polled _⟩
  · intro during f
    exact refreshFrom_on during f s
  · intro during t hreached
    rw [refreshFrom_on, refresh_on]
    exact if_pos hreached

end Store

end ShardRouting
