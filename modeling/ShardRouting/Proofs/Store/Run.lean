import ShardRouting.Proofs.Topology.Derivation
import ShardRouting.Topology.Store

namespace ShardRouting

namespace Store

theorem update_on (derive : Topology → Attempt TopologyError Topology) (s : Store) :
    (update derive).on s =
      match derive s.current with
      | .error e => (.error e, s)
      | .ok next =>
        if next.version ≤ s.current.version then
          (.error (.refused (.staleVersion s.current.version next.version)), s)
        else if next.space ≠ s.current.space then
          (.error (.refused (.spaceMismatch s.current.space next.space)), s)
        else (.ok next, opening next) := by
  simp only [update, Action.on_bind, Action.on_get, Action.on_lift]
  cases derive s.current with
  | error e => rfl
  | ok next =>
    by_cases hv : next.version ≤ s.current.version
    · simp [hv]
    · by_cases hs : next.space = s.current.space
      · simp [Action.on_bind, hv, hs, opening, Except.map]
      · simp [hv, hs]

structure Succeeds (s : Store) (next : Topology) : Prop where
  newer : s.version < next.version
  space : next.space = s.current.space

theorem update_cases (derive : Topology → Attempt TopologyError Topology) (s : Store) :
    (∃ next, (update derive).on s = (.ok next, opening next) ∧ s.Succeeds next ∧
      derive s.current = .ok next) ∨
    ∃ e, (update derive).on s = (.error e, s) := by
  rw [update_on]
  cases hd : derive s.current with
  | error e => exact .inr ⟨e, rfl⟩
  | ok next =>
    dsimp only
    split
    · exact .inr ⟨_, rfl⟩
    · next hv =>
      split
      · exact .inr ⟨_, rfl⟩
      · next hs => exact .inl ⟨next, rfl, ⟨UInt64.not_le.mp hv, not_not.mp hs⟩, rfl⟩

theorem announced_on (a : Action TopologyError Topology) (s : Store) :
    (announced a).on s =
      match a.on s with
      | (.ok _, s') => (.ok true, s')
      | (.error e, s') => (.error (e.map .refused), s') := by
  rw [announced, Action.on_map, Action.on_adapt]
  rcases a.on s with ⟨_ | x, s'⟩ <;> rfl

theorem refresh_on (f : Fetch) (s : Store) :
    (refresh f).on s =
      match f with
      | .error e => (.error (.refused e), s)
      | .ok t =>
        if t.version ≤ s.version then (.ok false, s)
        else if t.space ≠ s.current.space then
          (.error (.refused (.refused (.spaceMismatch s.current.space t.space))), s)
        else (.ok true, opening t) := by
  cases f with
  | error e => rfl
  | ok t =>
    simp only [refresh, Attempt.ofExcept, Action.on_bind, Action.on_lift, Action.on_get,
      Action.on_ite, Action.on_tryCatch, announced_on, publish, update_on, version]
    by_cases hv : t.version ≤ s.current.version
    · simp [hv]
    · by_cases hs : t.space = s.current.space
      · simp [hv, hs]
      · simp [hv, hs, Failure.map]

theorem announced_update_cases (derive : Topology → Attempt TopologyError Topology) (s : Store) :
    (∃ next, (announced (update derive)).on s = (.ok true, opening next) ∧ s.Succeeds next ∧
      derive s.current = .ok next) ∨
    ∃ e, (announced (update derive)).on s = (.error e, s) := by
  rw [announced_on]
  rcases update_cases derive s with ⟨next, hon, hnext⟩ | ⟨e, hon⟩
  · exact .inl ⟨next, by rw [hon], hnext⟩
  · exact .inr ⟨_, by rw [hon]⟩

theorem step_cases (o : Operation) (s : Store) :
    (∃ next, (step o).on s = (.ok true, opening next) ∧ s.Succeeds next ∧
      ∀ d, o = .derive d → s.current.derive d = .ok next) ∨
    ∃ answer, answer ≠ .ok true ∧ (step o).on s = (answer, s) := by
  cases o with
  | derive d =>
    rcases announced_update_cases (·.derive d) s with ⟨next, hon, hnext, hd⟩ | ⟨e, hon⟩
    · refine .inl ⟨next, hon, hnext, ?_⟩
      rintro _ ⟨rfl⟩
      exact hd
    · exact .inr ⟨.error e, by simp, hon⟩
  | publish t =>
    rcases announced_update_cases (fun _ => .ok t) s with ⟨next, hon, hnext, -⟩ | ⟨e, hon⟩
    · exact .inl ⟨next, hon, hnext, nofun⟩
    · exact .inr ⟨.error e, by simp, hon⟩
  | refresh f =>
    rw [step, refresh_on]
    cases f with
    | error e => exact .inr ⟨_, by simp, rfl⟩
    | ok t =>
      dsimp only
      split
      · exact .inr ⟨.ok false, by simp, rfl⟩
      · next hv =>
        split
        · exact .inr ⟨_, by simp, rfl⟩
        · next hs =>
          exact .inl ⟨t, rfl, ⟨UInt64.not_le.mp hv, not_not.mp hs⟩, nofun⟩

structure Tracks (t₀ : Topology) (s : Store) : Prop where
  unviolated : s.current.violation? = none
  rebuilt : Topology.create s.current.version s.current.space s.current.shards.toList
    s.current.ranges s.current.migrations = .ok s.current
  space : s.current.space = t₀.space
  gauge : s.gauge = s.current.version.toInt64

structure Advances (s : Store) (o : Operation) : Prop where
  kept : ((step o).on s).1 ≠ .ok true → s.after o = s
  newer : ((step o).on s).1 = .ok true → s.version < (s.after o).version
  next : ∀ d, o = .derive d → ((step o).on s).1 = .ok true →
    (s.after o).version.toNat = s.version.toNat + 1

theorem tracks_opening (t₀ : Topology) {t : Topology} (h : t.space = t₀.space) :
    Tracks t₀ (opening t) where
  unviolated := t.violation?_eq_none
  rebuilt := t.create_parts
  space := h
  gauge := rfl

theorem Tracks.after {t₀ : Topology} {s : Store} (h : Tracks t₀ s) (o : Operation) :
    Tracks t₀ (s.after o) := by
  rcases step_cases o s with ⟨next, hon, hnext, -⟩ | ⟨answer, -, hon⟩
  · rw [Store.after, hon]
    exact tracks_opening t₀ (hnext.space.trans h.space)
  · rw [Store.after, hon]
    exact h

theorem Tracks.run {t₀ : Topology} {s : Store} (h : Tracks t₀ s) (os : List Operation) :
    Tracks t₀ (s.run os) := by
  induction os generalizing s with
  | nil => exact h
  | cons o rest ih => exact ih (h.after o)

theorem advances (s : Store) (o : Operation) : s.Advances o := by
  rcases step_cases o s with ⟨next, hon, hnext, hd⟩ | ⟨answer, hne, hon⟩
  · refine ⟨?_, ?_, ?_⟩
    · intro hne
      exact absurd (congrArg Prod.fst hon) hne
    · intro _
      rw [after, hon]
      exact hnext.newer
    · intro d ho _
      obtain ⟨l, -, hv, -⟩ := Topology.derive_eq_ok_iff.mp (hd d ho)
      rw [after, hon]
      exact hv
  · have hanswer : ((step o).on s).1 = answer := congrArg Prod.fst hon
    refine ⟨fun _ => congrArg Prod.snd hon, ?_, ?_⟩
    · intro htrue
      exact absurd (hanswer.symm.trans htrue) hne
    · intro d _ htrue
      exact absurd (hanswer.symm.trans htrue) hne

theorem run_tracks_and_advances (t₀ : Topology) (os : List Operation) (o : Operation) :
    Tracks t₀ (((opening t₀).run os).after o) ∧ ((opening t₀).run os).Advances o :=
  ⟨((tracks_opening t₀ rfl).run os).after o, advances _ o⟩

end Store

end ShardRouting
