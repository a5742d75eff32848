import ShardRouting.Proofs.Topology.CutOver

namespace ShardRouting

def WriteRoute.Reaches (w : WriteRoute) (s : ShardNumber) : Prop :=
  ∀ targets, w.targets = .ok targets → s ∈ targets

namespace WriteRoute.Reaches

theorem single (s : ShardNumber) : (WriteRoute.single s).Reaches s := by
  intro targets h
  cases h
  exact List.mem_singleton.mpr rfl

theorem primary (s s' : ShardNumber) : (dual s s').Reaches s := by
  intro targets h
  cases h
  exact List.mem_cons_self

theorem secondary (s s' : ShardNumber) : (dual s s').Reaches s' := by
  intro targets h
  cases h
  exact List.mem_cons_of_mem s (List.mem_singleton.mpr rfl)

theorem blocked (m : Migration) (s : ShardNumber) : (WriteRoute.blocked m).Reaches s := nofun

end WriteRoute.Reaches

namespace WritePolicy

def spansMove : WritePolicy → Bool
  | .dualWrite | .block => true
  | .source | .redirect => false

variable {p : WritePolicy}

theorem route_reaches_readShard (hp : p ≠ .redirect) (m : Migration) :
    (p.route m).Reaches m.readShard := by
  obtain ⟨⟨source, destination, status⟩, bucket⟩ := m
  cases status with
  | done => exact .single destination
  | moving =>
    cases p with
    | source => exact .single source
    | dualWrite => exact .primary source destination
    | redirect => exact absurd rfl hp
    | block => exact .blocked _ source

theorem route_reaches_destination (hp : p.spansMove) (m : Migration) :
    (p.route m).Reaches m.destination := by
  obtain ⟨⟨source, destination, status⟩, bucket⟩ := m
  cases status with
  | done => exact .single destination
  | moving =>
    cases p with
    | source => exact absurd hp (by decide)
    | dualWrite => exact .secondary source destination
    | redirect => exact absurd hp (by decide)
    | block => exact .blocked _ destination

theorem targets_route_source (m : Migration) :
    (WritePolicy.source.route m).targets = .ok [m.readShard] := by
  obtain ⟨⟨source, destination, status⟩, bucket⟩ := m
  cases status with
  | done => rfl
  | moving => rfl

theorem ne_redirect_of_spansMove (hp : p.spansMove) : p ≠ .redirect := by
  rintro rfl
  exact absurd hp (by decide)

end WritePolicy

namespace Router

variable {r : Router} {t t' : Topology} {b : Bucket}

theorem write_of_unrecorded (r : Router) (h : t.move? b = none) :
    (r.decision t b).write = .single (t.owner b) := by
  rw [decision, Topology.migration?, h]
  rfl

theorem write_of_move? (r : Router) {m : Move} (h : t.move? b = some m) :
    (r.decision t b).write = r.policy.route ⟨m, b⟩ := by
  rw [decision, Topology.migration?, h]
  rfl

theorem write_reaches_readShard (hp : r.policy ≠ .redirect) (t : Topology) (b : Bucket) :
    (r.decision t b).write.Reaches (t.readShard b) := by
  cases hm : t.move? b with
  | none =>
    rw [r.write_of_unrecorded hm, Topology.readShard_of_unrecorded hm]
    exact .single _
  | some m =>
    rw [r.write_of_move? hm, Topology.readShard_of_move? hm]
    exact WritePolicy.route_reaches_readShard hp ⟨m, b⟩

theorem write_reaches_next_readShard {d : Derivation} (hp : r.policy.spansMove)
    (hsplit : ∀ start s, d ≠ .splitRange start s) (h : t.derive d = .ok t') (hb : b < t.space) :
    (r.decision t b).write.Reaches (t'.readShard b) := by
  rcases Topology.followsCutOver_derive h hb with hcut | ⟨hsame, -⟩
  · generalize t'.readShard b = s at hcut
    cases hcut with
    | completed hm _ =>
      rw [r.write_of_move? hm]
      exact WritePolicy.route_reaches_destination hp _
    | split _ _ _ => exact absurd rfl (hsplit _ _)
  · rw [hsame]
    exact write_reaches_readShard (WritePolicy.ne_redirect_of_spansMove hp) t b

theorem targets_of_source (hp : r.policy = .source) (t : Topology) (b : Bucket) :
    (r.decision t b).write.targets = .ok [t.readShard b] := by
  cases hm : t.move? b with
  | none =>
    rw [r.write_of_unrecorded hm, Topology.readShard_of_unrecorded hm]
    rfl
  | some m =>
    rw [r.write_of_move? hm, Topology.readShard_of_move? hm, hp]
    exact WritePolicy.targets_route_source ⟨m, b⟩

/-- Under the policies `dualWrite` and `block` an accepted write reaches the shard that reads its
bucket and the one that reads it after any change but a split; under `source` it reaches the reading
shard alone. -/
theorem accepted_writes_reach_readers (r : Router) :
    (r.policy = .dualWrite ∨ r.policy = .block →
      ∀ (t t' : Topology) (d : Derivation) (b : Bucket),
        (∀ start s, d ≠ .splitRange start s) → t.derive d = .ok t' → b < t.space →
        ∃ before after, (r.decideBucket t b).value = .ok before ∧
          (r.decideBucket t' b).value = .ok after ∧
          ∀ targets, before.write.targets = .ok targets →
            before.readShard ∈ targets ∧ after.readShard ∈ targets) ∧
    (r.policy = .source → ∀ (t : Topology), ∀ b < t.space,
      ∃ decision, (r.decideBucket t b).value = .ok decision ∧
        decision.write.targets = .ok [decision.readShard]) := by
  constructor
  · intro hp t t' d b hsplit h hb
    have hspans : r.policy.spansMove := by
      rcases hp with hp | hp <;> rw [hp] <;> rfl
    have hredirect := WritePolicy.ne_redirect_of_spansMove hspans
    have hb' : b < t'.space := by rwa [Topology.space_of_derive h]
    refine ⟨_, _, r.decideBucket_of_lt hb, r.decideBucket_of_lt hb', ?_⟩
    intro targets htargets
    exact ⟨write_reaches_readShard hredirect t b targets htargets,
      write_reaches_next_readShard hspans hsplit h hb targets htargets⟩
  · intro hp t b hb
    exact ⟨_, r.decideBucket_of_lt hb, targets_of_source hp t b⟩

theorem accepted_writes_reach_readers_copying :
    Topology.copying.derive (.completeMigration 10) = .ok Topology.copied ∧
      (∃ before after,
        ((⟨'$', .dualWrite⟩ : Router).decideBucket Topology.copying 10).value = .ok before ∧
        ((⟨'$', .dualWrite⟩ : Router).decideBucket Topology.copied 10).value = .ok after ∧
        ∀ targets, before.write.targets = .ok targets →
          before.readShard ∈ targets ∧ after.readShard ∈ targets) ∧
      ∃ decision,
        ((⟨'$', .source⟩ : Router).decideBucket Topology.copying 10).value = .ok decision ∧
        decision.write.targets = .ok [decision.readShard] :=
  ⟨rfl,
    (accepted_writes_reach_readers ⟨'$', .dualWrite⟩).1 (.inl rfl) Topology.copying Topology.copied
      (.completeMigration 10) 10 nofun rfl (by decide),
    (accepted_writes_reach_readers ⟨'$', .source⟩).2 rfl Topology.copying 10 (by decide)⟩

end Router

end ShardRouting
