import ShardRouting.Proofs.Routing.Hashing
import ShardRouting.Proofs.Routing.WriteTargets

namespace ShardRouting

theorem bucketFor_of_empty {key : String} {separator : Char} (h : anchor key separator = "")
    (space : UInt32) : bucketFor key separator space = .error (.refused (.emptyKey key)) := by
  rw [bucketFor, h]
  rfl

theorem exists_bucketFor {key : String} {separator : Char} {space : UInt32}
    (h : anchor key separator ≠ "") (hspace : space ≠ 0) :
    ∃ b < space, bucketFor key separator space = .ok b := by
  have hlt := toUInt32_mod_lt (xxHash64 (anchor key separator).toUTF8.data.toList) hspace
  refine ⟨_, hlt, ?_⟩
  simp only [bucketFor, String.isEmpty_eq_false_iff.mpr h, hspace, Bool.false_eq_true, if_false]

namespace Topology

variable (t : Topology) (b : Bucket)

theorem readShard_mem : t.readShard b ∈ t.shards := by
  cases hm : t.move? b with
  | none =>
    rw [readShard_of_unrecorded hm]
    exact t.owner_mem b
  | some m =>
    have ha := admits_of_move? hm
    rw [readShard_of_move? hm, Move.readShard]
    cases m.status with
    | moving => exact ha.source_mem
    | done => exact ha.destination_mem

end Topology

theorem WriteRoute.targets_eq_ok_iff {w : WriteRoute} {targets : List ShardNumber} :
    w.targets = .ok targets ↔
      (∃ s, w = .single s ∧ targets = [s]) ∨ ∃ p q, w = .dual p q ∧ targets = [p, q] := by
  cases w <;> simp [WriteRoute.targets, eq_comm]

namespace WritePolicy

variable {p : WritePolicy} {m : Migration}

theorem mem_targets_route {targets : List ShardNumber} (h : (p.route m).targets = .ok targets)
    {s : ShardNumber} (hs : s ∈ targets) : s = m.source ∨ s = m.destination := by
  obtain ⟨⟨source, destination, status⟩, bucket⟩ := m
  cases status with
  | done =>
    cases h
    exact .inr (List.mem_singleton.mp hs)
  | moving =>
    cases p with
    | source =>
      cases h
      exact .inl (List.mem_singleton.mp hs)
    | dualWrite =>
      cases h
      simpa using hs
    | redirect =>
      cases h
      exact .inr (List.mem_singleton.mp hs)
    | block => cases h

theorem targets_route_eq_error_iff {e : RoutingError} : (p.route m).targets = .error e ↔
    p = .block ∧ m.isMoving ∧ e = .bucketMigrating m.bucket m.source m.destination := by
  obtain ⟨⟨source, destination, status⟩, bucket⟩ := m
  cases status with
  | done => simp [route, WriteRoute.targets, Move.isMoving]
  | moving => cases p <;> simp [route, WriteRoute.targets, Move.isMoving, eq_comm]

end WritePolicy

namespace Router

variable (r : Router) (t : Topology)

theorem targets_mem {b : Bucket} {targets : List ShardNumber}
    (h : (r.decision t b).write.targets = .ok targets) : ∀ s ∈ targets, s ∈ t.shards := by
  intro s hs
  cases hm : t.move? b with
  | none =>
    rw [r.write_of_unrecorded hm] at h
    cases h
    rw [List.mem_singleton.mp hs]
    exact t.owner_mem b
  | some m =>
    have ha := Topology.admits_of_move? hm
    rw [r.write_of_move? hm] at h
    rcases WritePolicy.mem_targets_route h hs with rfl | rfl
    · exact ha.source_mem
    · exact ha.destination_mem

theorem targets_eq_error_iff {b : Bucket} {e : RoutingError} :
    (r.decision t b).write.targets = .error e ↔ r.policy = .block ∧
      ∃ m, t.move? b = some m ∧ m.isMoving ∧ e = .bucketMigrating b m.source m.destination := by
  cases hm : t.move? b with
  | none =>
    rw [r.write_of_unrecorded hm]
    simp [WriteRoute.targets]
  | some m =>
    rw [r.write_of_move? hm, WritePolicy.targets_route_eq_error_iff]
    simp

structure Routed (d : Decision) : Prop where
  inSpace : d.bucket < t.space
  version : d.version = t.version
  held : ∃ q, t.ranges[t.ranges.index d.bucket]? = some q ∧ q.shard = t.owner d.bucket
  unrecorded : t.move? d.bucket = none → d.readShard = t.owner d.bucket
  moving : ∀ m, t.move? d.bucket = some m → m.status = .moving →
    d.readShard = m.source ∧ m.source = t.owner d.bucket
  done : ∀ m, t.move? d.bucket = some m → m.status = .done → d.readShard = m.destination
  readShard_mem : d.readShard ∈ t.shards
  targets_mem : ∀ targets, d.write.targets = .ok targets → ∀ s ∈ targets, s ∈ t.shards

theorem routed_decision {b : Bucket} (hb : b < t.space) : Routed t (r.decision t b) where
  inSpace := hb
  version := rfl
  held := by
    obtain ⟨q, hq, -, -, ho⟩ := t.wellFormed.covers.exists_holder b
    exact ⟨q, hq, ho.symm⟩
  unrecorded := Topology.readShard_of_unrecorded
  moving := by
    intro m hm hs
    have howned := (Topology.admits_of_move? hm).owned (decide_eq_true hs)
    have hread := Topology.readShard_of_move? hm
    rw [Move.readShard, hs] at hread
    exact ⟨hread, howned.symm⟩
  done := by
    intro m hm hs
    have hread := Topology.readShard_of_move? hm
    rw [Move.readShard, hs] at hread
    exact hread
  readShard_mem := t.readShard_mem b
  targets_mem := fun _ h => r.targets_mem t h

structure Serves (key : String) (d : Decision) : Prop where
  route : (r.route t key).value = .ok d.readShard
  readShard : (r.readShard t d.bucket).value = .ok d.readShard
  accepted : ∀ targets, (r.routeForWrite t key).value = .ok targets ↔
    (∃ s, d.write = .single s ∧ targets = [s]) ∨ ∃ p q, d.write = .dual p q ∧ targets = [p, q]
  refused : ∀ e, (r.routeForWrite t key).value = .error e ↔ r.policy = .block ∧
    ∃ m, t.move? d.bucket = some m ∧ m.isMoving ∧
      e = .refused (.bucketMigrating d.bucket m.source m.destination)

theorem value_route (key : String) :
    (r.route t key).value = (r.decide t key).value.map (·.readShard) := by
  rw [route, Metered.value_bind, Metered.value_pure]

theorem value_routeForWrite (key : String) : (r.routeForWrite t key).value =
    (r.decide t key).value >>= fun d => Attempt.ofExcept d.write.targets := by
  rw [routeForWrite, Metered.value_bind, Metered.value_pure]

theorem serves_decision {key : String} {b : Bucket} (hb : b < t.space)
    (h : (r.decide t key).value = .ok (r.decision t b)) : r.Serves t key (r.decision t b) := by
  have hwrite : (r.routeForWrite t key).value =
      Attempt.ofExcept (r.decision t b).write.targets := by
    rw [value_routeForWrite, h]
    rfl
  constructor
  · rw [value_route, h]
    rfl
  · have hbucket : (r.decideBucket t (r.decision t b).bucket).value = .ok (r.decision t b) :=
      r.decideBucket_of_lt hb
    rw [Router.readShard, Metered.value_bind, hbucket]
    rfl
  · intro targets
    rw [hwrite, Attempt.ofExcept_eq_ok, WriteRoute.targets_eq_ok_iff]
  · intro e
    rw [hwrite]
    cases e with
    | refused c =>
      rw [Attempt.ofExcept_eq_refused, targets_eq_error_iff]
      simp [decision]
    | trapped x => simp [Attempt.ofExcept_ne_trapped]

/-- A key is refused exactly when its anchor is empty, whatever is asked of it. Any other key gets a
decision within the topology, and only blocked writes are refused after it. -/
theorem routing_total_and_closed (key : String) :
    (anchor key r.separator = "" →
      (r.decide t key).value = .error (.refused (.emptyKey key)) ∧
        (r.route t key).value = .error (.refused (.emptyKey key)) ∧
        (r.routeForWrite t key).value = .error (.refused (.emptyKey key))) ∧
    (anchor key r.separator ≠ "" →
      ∃ d, (r.decide t key).value = .ok d ∧ bucketFor key r.separator t.space = .ok d.bucket ∧
        Routed t d ∧ r.Serves t key d) := by
  constructor
  · intro hempty
    have hdecide : (r.decide t key).value = .error (.refused (.emptyKey key)) := by
      rw [value_decide, bucketFor_of_empty hempty]
      rfl
    rw [value_route, value_routeForWrite, hdecide]
    exact ⟨rfl, rfl, rfl⟩
  · intro hanchor
    obtain ⟨b, hb, hbucket⟩ := exists_bucketFor hanchor t.space_ne_zero
    have hdecide : (r.decide t key).value = .ok (r.decision t b) := by
      rw [value_decide, hbucket]
      rfl
    exact ⟨_, hdecide, hbucket, r.routed_decision t hb, r.serves_decision t hb hdecide⟩

end Router

end ShardRouting
