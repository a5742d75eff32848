import Mathlib.Data.List.TakeWhile
import ShardRouting.Proofs.Routing.Totality
import ShardRouting.Query.Scope

namespace ShardRouting

namespace Topology

variable {t : Topology} {b : Bucket} {s : ShardNumber}

inductive ReadBy (t : Topology) (b : Bucket) : ShardNumber → Prop
  | moving {m : Move} (recorded : t.move? b = some m) (status : m.status = .moving) :
    ReadBy t b m.source
  | done {m : Move} (recorded : t.move? b = some m) (status : m.status = .done) :
    ReadBy t b m.destination
  | unrecorded (h : t.move? b = none) : ReadBy t b (t.owner b)

theorem readBy_readShard (t : Topology) (b : Bucket) : t.ReadBy b (t.readShard b) := by
  cases hm : t.move? b with
  | none =>
    rw [readShard_of_unrecorded hm]
    exact .unrecorded hm
  | some m =>
    rw [readShard_of_move? hm, Move.readShard]
    cases hs : m.status with
    | moving => exact .moving hm hs
    | done => exact .done hm hs

theorem readBy_iff : t.ReadBy b s ↔ s = t.readShard b := by
  constructor
  · intro h
    cases h with
    | moving hm hs => rw [readShard_of_move? hm, Move.readShard, hs]
    | done hm hs => rw [readShard_of_move? hm, Move.readShard, hs]
    | unrecorded hm => rw [readShard_of_unrecorded hm]
  · rintro rfl
    exact t.readBy_readShard b

end Topology

namespace Router

variable (r : Router) (t : Topology)

theorem decisionTally_eq (b : Bucket) : decisionTally t b = { routeRequests := 1 } := by
  rw [decisionTally, t.wellFormed.covers.position?_eq]
  simp

theorem readShard_of_lt {b : Bucket} (h : b < t.space) :
    r.readShard t b = .count { routeRequests := 1 } (.ok (t.readShard b)) := by
  rw [readShard, decideBucket, if_neg (UInt32.not_le.mpr h), decisionTally_eq]
  rfl

theorem readShard_of_le {b : Bucket} (h : t.space ≤ b) :
    r.readShard t b = pure (.error (.bucketOutOfSpace b t.space)) := by
  rw [readShard, decideBucket, if_pos h]
  rfl

theorem readShards_cons_of_lt {b : Bucket} (h : b < t.space) (rest : List Bucket) :
    r.readShards t (b :: rest) = .count ({ routeRequests := 1 } + (r.readShards t rest).tally)
      ((r.readShards t rest).value.map (t.readShard b :: ·)) := by
  rw [readShards, r.readShard_of_lt t h]
  rfl

theorem readShards_of_inSpace {bs : List Bucket} (h : ∀ b ∈ bs, b < t.space) :
    r.readShards t bs = .count { routeRequests := bs.length } (.ok (bs.map t.readShard)) := by
  induction bs with
  | nil => rfl
  | cons b rest ih =>
    obtain ⟨hb, hrest⟩ := List.forall_mem_cons.mp h
    rw [r.readShards_cons_of_lt t hb, ih hrest, List.length_cons, Nat.add_comm]
    rfl

theorem readShards_of_outOfSpace {before : List Bucket} {b : Bucket}
    (h : ∀ c ∈ before, c < t.space) (hb : t.space ≤ b) (after : List Bucket) :
    r.readShards t (before ++ b :: after) =
      .count { routeRequests := before.length } (.error (.bucketOutOfSpace b t.space)) := by
  induction before with
  | nil =>
    rw [List.nil_append, readShards, r.readShard_of_le t hb]
    rfl
  | cons c before ih =>
    obtain ⟨hc, hbefore⟩ := List.forall_mem_cons.mp h
    rw [List.cons_append, r.readShards_cons_of_lt t hc, ih hbefore, List.length_cons, Nat.add_comm]
    rfl

end Router

namespace Scope

variable {r : Router} {t : Topology} {scope : Scope} {e : QueryError}

inductive FirstUnknown (t : Topology) : Scope → QueryError → Prop
  | bucket {before after : List Bucket} {b : Bucket} (known : ∀ c ∈ before, c < t.space)
    (unknown : t.space ≤ b) :
    FirstUnknown t (.buckets (before ++ b :: after)) (.routing (.bucketOutOfSpace b t.space))
  | shard {before after : List ShardNumber} {s : ShardNumber} (known : ∀ c ∈ before, c ∈ t.shards)
    (unknown : s ∉ t.shards) :
    FirstUnknown t (.shards (before ++ s :: after)) (.topology (.unknownShard s))

inductive Targets (t : Topology) : Scope → ShardNumber → Prop
  | all {s : ShardNumber} (h : s ∈ t.shards) : Targets t .all s
  | bucket {bs : List Bucket} {b : Bucket} {s : ShardNumber} (listed : b ∈ bs)
    (read : t.ReadBy b s) : Targets t (.buckets bs) s
  | shard {ss : List ShardNumber} {s : ShardNumber} (listed : s ∈ ss) : Targets t (.shards ss) s

def Known (t : Topology) : Scope → Prop
  | .all => True
  | .buckets bs => ∀ b ∈ bs, b < t.space
  | .shards ss => ∀ s ∈ ss, s ∈ t.shards

inductive SameItems : Scope → Scope → Prop
  | all : SameItems .all .all
  | buckets {bs bs' : List Bucket} (h : ∀ b, b ∈ bs ↔ b ∈ bs') :
    SameItems (.buckets bs) (.buckets bs')
  | shards {ss ss' : List ShardNumber} (h : ∀ s, s ∈ ss ↔ s ∈ ss') :
    SameItems (.shards ss) (.shards ss')

def decisions (t : Topology) : Scope → Nat
  | .all => 0
  | .buckets bs => (bs.takeWhile (· < t.space)).length
  | .shards _ => 0

def targets (t : Topology) : Scope → OrderedSet ShardNumber
  | .all => t.shards
  | .buckets bs => .ofList (bs.map t.readShard)
  | .shards ss => .ofList ss

theorem mem_targets {s : ShardNumber} : s ∈ scope.targets t ↔ scope.Targets t s := by
  constructor
  · intro h
    cases scope with
    | all => exact .all h
    | buckets bs =>
      obtain ⟨b, hb, rfl⟩ := List.mem_map.mp (OrderedSet.mem_ofList.mp h)
      exact .bucket hb (t.readBy_readShard b)
    | shards ss => exact .shard (OrderedSet.mem_ofList.mp h)
  · intro h
    cases h with
    | all h => exact h
    | bucket hb hread =>
      rw [Topology.readBy_iff.mp hread]
      exact OrderedSet.mem_ofList.mpr (List.mem_map_of_mem hb)
    | shard hs => exact OrderedSet.mem_ofList.mpr hs

theorem Targets.mem_shards {s : ShardNumber} (h : scope.Targets t s) (hk : scope.Known t) :
    s ∈ t.shards := by
  cases h with
  | all h => exact h
  | bucket _ hread =>
    rw [Topology.readBy_iff.mp hread]
    exact t.readShard_mem _
  | shard hs => exact hk s hs

theorem SameItems.targets_eq {scope' : Scope} (h : scope.SameItems scope') :
    scope'.targets t = scope.targets t := by
  cases h with
  | all => rfl
  | buckets h =>
    apply OrderedSet.ext_mem
    intro s
    simp only [targets, OrderedSet.mem_ofList, List.mem_map, h]
  | shards h =>
    apply OrderedSet.ext_mem
    intro s
    simp only [targets, OrderedSet.mem_ofList, h]

theorem SameItems.known_iff {scope' : Scope} (h : scope.SameItems scope') :
    scope'.Known t ↔ scope.Known t := by
  cases h with
  | all => rfl
  | buckets h => simp only [Known, h]
  | shards h => simp only [Known, h]

theorem known_or_firstUnknown (t : Topology) (scope : Scope) :
    scope.Known t ∨ ∃ e, scope.FirstUnknown t e := by
  cases scope with
  | all => exact .inl trivial
  | buckets bs =>
    cases hf : bs.find? (t.space ≤ ·) with
    | none =>
      left
      simpa [Known] using hf
    | some b =>
      obtain ⟨hb, before, after, rfl, hbefore⟩ := List.find?_eq_some_iff_append.mp hf
      exact .inr ⟨_, .bucket (by simpa using hbefore) (by simpa using hb)⟩
  | shards ss =>
    cases hf : ss.find? (· ∉ t.shards) with
    | none =>
      left
      simpa [Known] using hf
    | some s =>
      obtain ⟨hs, before, after, rfl, hbefore⟩ := List.find?_eq_some_iff_append.mp hf
      exact .inr ⟨_, .shard (by simpa using hbefore) (by simpa using hs)⟩

theorem resolve_of_known (r : Router) (h : scope.Known t) : scope.resolve r t =
    .count { routeRequests := scope.decisions t } (.ok (scope.targets t)) := by
  cases scope with
  | all => rfl
  | buckets bs =>
    have htake : bs.takeWhile (· < t.space) = bs :=
      List.takeWhile_eq_self_iff.mpr fun b hb => decide_eq_true (h b hb)
    rw [resolve, r.readShards_of_inSpace t h, decisions, htake]
    rfl
  | shards ss =>
    have hnone : ss.find? (· ∉ t.shards) = none := by simpa [Known] using h
    rw [resolve, hnone]
    rfl

theorem resolve_of_firstUnknown (r : Router) (h : scope.FirstUnknown t e) : scope.resolve r t =
    .count { routeRequests := scope.decisions t } (.error e) := by
  cases h with
  | @bucket before after b hknown hunknown =>
    have htake : (before ++ b :: after).takeWhile (· < t.space) = before := by
      rw [List.takeWhile_append_of_pos fun c hc => decide_eq_true (hknown c hc),
        List.takeWhile_cons_of_neg (by simpa using hunknown), List.append_nil]
    rw [resolve, r.readShards_of_outOfSpace t hknown hunknown, decisions, htake]
    rfl
  | @shard before after s hknown hunknown =>
    have hfirst : (before ++ s :: after).find? (· ∉ t.shards) = some s :=
      List.find?_eq_some_iff_append.mpr
        ⟨by simpa using hunknown, before, after, rfl, by simpa using hknown⟩
    rw [resolve, hfirst]
    rfl

theorem FirstUnknown.not_known (h : scope.FirstUnknown t e) : ¬scope.Known t := by
  intro hk
  cases h with
  | @bucket before after b _ hunknown =>
    exact absurd (hk b (by simp)) (UInt32.not_lt.mpr hunknown)
  | @shard before after s _ hunknown => exact hunknown (hk s (by simp))

theorem value_resolve_eq_error_iff (r : Router) :
    (scope.resolve r t).value = .error e ↔ scope.FirstUnknown t e := by
  constructor
  · intro hvalue
    rcases known_or_firstUnknown t scope with h | ⟨e', h⟩
    · rw [resolve_of_known r h] at hvalue
      cases hvalue
    · rw [resolve_of_firstUnknown r h] at hvalue
      cases hvalue
      exact h
  · intro h
    rw [resolve_of_firstUnknown r h]
    rfl

theorem value_resolve_eq_ok_iff (r : Router) {shards : OrderedSet ShardNumber} :
    (scope.resolve r t).value = .ok shards ↔ scope.Known t ∧ shards = scope.targets t := by
  constructor
  · intro hvalue
    rcases known_or_firstUnknown t scope with h | ⟨e, h⟩
    · rw [resolve_of_known r h] at hvalue
      cases hvalue
      exact ⟨h, rfl⟩
    · rw [resolve_of_firstUnknown r h] at hvalue
      cases hvalue
  · rintro ⟨h, rfl⟩
    rw [resolve_of_known r h]
    rfl

theorem resolve_eq_of_router (r r' : Router) (t : Topology) (scope : Scope) :
    scope.resolve r t = scope.resolve r' t := by
  rcases known_or_firstUnknown t scope with h | ⟨e, h⟩
  · rw [resolve_of_known r h, resolve_of_known r' h]
  · rw [resolve_of_firstUnknown r h, resolve_of_firstUnknown r' h]

theorem tally_resolve (r : Router) (t : Topology) (scope : Scope) :
    (scope.resolve r t).tally = { routeRequests := scope.decisions t } := by
  rcases known_or_firstUnknown t scope with h | ⟨e, h⟩
  · rw [resolve_of_known r h]
    rfl
  · rw [resolve_of_firstUnknown r h]
    rfl

structure Resolves (r : Router) (t : Topology) (scope : Scope) : Prop where
  refused : ∀ e, (scope.resolve r t).value = .error e ↔ scope.FirstUnknown t e
  fails : (∃ e, (scope.resolve r t).value = .error e) ↔ ¬scope.Known t
  resolved : scope.Known t → ∃ shards, (scope.resolve r t).value = .ok shards ∧
    ∀ s, s ∈ shards ↔ scope.Targets t s
  closed : ∀ shards, (scope.resolve r t).value = .ok shards → ∀ s ∈ shards, s ∈ t.shards
  items : ∀ scope' shards, scope.SameItems scope' → (scope.resolve r t).value = .ok shards →
    (scope'.resolve r t).value = .ok shards
  router : ∀ r', scope.resolve r' t = scope.resolve r t
  tally : (scope.resolve r t).tally = { routeRequests := scope.decisions t }

theorem targets_sound_and_complete (r : Router) (t : Topology) (scope : Scope) :
    Resolves r t scope ∧ ∃ s, Scope.all.Targets t s := by
  refine ⟨?_, t.owner 0, .all (t.owner_mem 0)⟩
  constructor
  case refused => exact fun e => value_resolve_eq_error_iff r
  case fails =>
    simp only [value_resolve_eq_error_iff]
    constructor
    · rintro ⟨e, h⟩
      exact h.not_known
    · exact (known_or_firstUnknown t scope).resolve_left
  case resolved =>
    intro h
    exact ⟨_, (value_resolve_eq_ok_iff r).mpr ⟨h, rfl⟩, fun _ => mem_targets⟩
  case closed =>
    intro shards hvalue s hs
    obtain ⟨h, rfl⟩ := (value_resolve_eq_ok_iff r).mp hvalue
    exact (mem_targets.mp hs).mem_shards h
  case items =>
    intro scope' shards hsame hvalue
    obtain ⟨h, rfl⟩ := (value_resolve_eq_ok_iff r).mp hvalue
    exact (value_resolve_eq_ok_iff r).mpr ⟨hsame.known_iff.mpr h, hsame.targets_eq.symm⟩
  case router => exact fun r' => resolve_eq_of_router r' r t scope
  case tally => exact tally_resolve r t scope

end Scope

end ShardRouting
