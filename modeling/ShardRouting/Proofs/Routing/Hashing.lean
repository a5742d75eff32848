import ShardRouting.Cli.Run
import ShardRouting.Proofs.Store.Run
import ShardRouting.Proofs.Topology.CutOver

namespace ShardRouting

section Hashing

variable {key : String} {separator : Char} {space : UInt32}

theorem toUInt32_mod_lt (hash : UInt64) (hspace : space ≠ 0) :
    (hash % space.toUInt64).toUInt32 < space := by
  have hpos : 0 < space.toNat := by
    apply Nat.pos_of_ne_zero
    intro hz
    exact hspace (UInt32.toNat_inj.mp hz)
  rw [UInt32.lt_iff_toNat_lt, UInt64.toNat_toUInt32, UInt64.toNat_mod, UInt32.toNat_toUInt64]
  exact Nat.lt_of_le_of_lt (Nat.mod_le _ _) (Nat.mod_lt _ hpos)

theorem bucketFor_cases (key : String) (separator : Char) (hspace : space ≠ 0) :
    (∃ b < space, bucketFor key separator space = .ok b) ∨
      bucketFor key separator space = .error (.refused (.emptyKey key)) := by
  rw [bucketFor]
  split
  · exact .inr rfl
  · exact .inl ⟨_, toUInt32_mod_lt _ hspace, rfl⟩

end Hashing

theorem Topology.space_ne_zero (t : Topology) : t.space ≠ 0 := by
  intro hz
  obtain ⟨r, hr, -⟩ := t.wellFormed.covers.exists_zero
  have hlt := t.wellFormed.covers.inSpace r hr
  rw [hz] at hlt
  exact absurd hlt (UInt32.not_lt.mpr UInt32.zero_le)

namespace Router

theorem create_eq_ok_iff {t : Topology} {c : Config} {r : Router} :
    create t c = .ok r ↔ t.space = c.space ∧ r = ⟨c.separator, c.writePolicy⟩ := by
  rw [create]
  split
  · next h => simp [h, eq_comm]
  · next h => simp [h]

theorem value_decide (r : Router) (t : Topology) (key : String) :
    (r.decide t key).value = (bucketFor key r.separator t.space).map (r.decision t) := by
  rw [decide, bucket]
  rcases bucketFor_cases key r.separator t.space_ne_zero with ⟨b, hlt, hb⟩ | hempty
  · rw [hb, Metered.value_bind, r.decideBucket_of_lt hlt]
    rfl
  · rw [hempty]
    rfl

structure HashesLike (r : Router) (c : Config) (t : Topology) (key : String) : Prop where
  bucket_iff : ∀ b, (∃ d, (r.decide t key).value = .ok d ∧ d.bucket = b) ↔
    bucketFor key c.separator c.space = .ok b
  refused : (∀ b, bucketFor key c.separator c.space ≠ .ok b) →
    bucketFor key c.separator c.space = .error (.refused (.emptyKey key)) ∧
      (r.decide t key).value = .error (.refused (.emptyKey key))

theorem value_decide_of_create {t₀ t : Topology} {c : Config} {r : Router}
    (h : create t₀ c = .ok r) (ht : t.space = t₀.space) (key : String) :
    (r.decide t key).value = (bucketFor key c.separator c.space).map (r.decision t) := by
  obtain ⟨hspace, rfl⟩ := create_eq_ok_iff.mp h
  rw [value_decide, ht, hspace]

theorem hashesLike_of_create {t₀ t : Topology} {c : Config} {r : Router} (h : create t₀ c = .ok r)
    (ht : t.space = t₀.space) (key : String) : r.HashesLike c t key := by
  have hdecide := value_decide_of_create h ht key
  have hspace : c.space ≠ 0 := (create_eq_ok_iff.mp h).1 ▸ t₀.space_ne_zero
  constructor
  · intro b
    rw [hdecide]
    cases bucketFor key c.separator c.space with
    | error e => simp [Except.map]
    | ok b' => simp [Except.map, decision]
  · intro hnone
    rcases bucketFor_cases key c.separator hspace with ⟨b, -, hb⟩ | hempty
    · exact absurd hb (hnone b)
    · rw [hdecide, hempty]
      exact ⟨rfl, rfl⟩

end Router

theorem Decision.exists_describe (d : Decision) :
    ∃ rest, d.describe = "bucket=" ++ toString d.bucket ++ " read=" ++ rest := by
  simp only [describe, String.append_assoc]
  exact ⟨_, rfl⟩

theorem keyLine_ok {α : Type} (describe : α → String) (key : String) (a : α) :
    keyLine describe key (.ok a) = key ++ "\t" ++ describe a := rfl

theorem keyLine_refused {α : Type} (describe : α → String) (key : String) (e : RoutingError) :
    keyLine describe key (.error (.refused e)) = key ++ "\t" ++ ("error=" ++ e.message) := rfl

inductive PrintsAlike (c : Config) (r : Router) (t : Topology) (key : String) : Prop
  | bucket (b : Bucket) (rest : String) (hashed : bucketFor key c.separator c.space = .ok b)
    (bucketLine : c.bucketLine key = s!"{key}\tbucket={b}")
    (routeLine : r.line t key = s!"{key}\tbucket={b} read={rest}")
  | error (hashed : bucketFor key c.separator c.space = .error (.refused (.emptyKey key)))
    (bucketLine : c.bucketLine key = s!"{key}\terror={(RoutingError.emptyKey key).message}")
    (routeLine : r.line t key = c.bucketLine key)

theorem printsAlike_of_create {t : Topology} {c : Config} {r : Router}
    (h : Router.create t c = .ok r) (key : String) : PrintsAlike c r t key := by
  have hdecide := Router.value_decide_of_create h rfl key
  have hspace : c.space ≠ 0 := (Router.create_eq_ok_iff.mp h).1 ▸ t.space_ne_zero
  rcases bucketFor_cases key c.separator hspace with ⟨b, -, hb⟩ | hempty
  · obtain ⟨rest, hrest⟩ := (r.decision t b).exists_describe
    refine .bucket b rest hb ?_ ?_
    · calc c.bucketLine key = key ++ "\t" ++ ("bucket=" ++ toString b) := by
            rw [Config.bucketLine, hb, keyLine_ok]
            rfl
        _ = key ++ ("\t" ++ "bucket=") ++ toString b := by simp only [String.append_assoc]
    · calc r.line t key = key ++ "\t" ++ ("bucket=" ++ toString b ++ " read=" ++ rest) := by
            rw [Router.line, hdecide, hb, Except.map, keyLine_ok, hrest]
            rfl
        _ = key ++ ("\t" ++ "bucket=") ++ toString b ++ " read=" ++ rest := by
            simp only [String.append_assoc]
  · have hroute : r.line t key = c.bucketLine key := by
      rw [Router.line, hdecide, Config.bucketLine, hempty]
      rfl
    refine .error hempty ?_ hroute
    calc c.bucketLine key = key ++ "\t" ++ ("error=" ++ (RoutingError.emptyKey key).message) := by
          rw [Config.bucketLine, hempty, keyLine_refused]
      _ = key ++ ("\t" ++ "error=") ++ (RoutingError.emptyKey key).message := by
          simp only [String.append_assoc]

namespace Surroundings

variable (s : Surroundings) (c : Config) (path : String)

theorem create_of_router {r : Router} {t : Topology} (h : s.router c path = .ok (r, t)) :
    Router.create t c = .ok r := by
  rw [router] at h
  cases ht : s.topology path with
  | error complaint =>
    rw [ht] at h
    cases h
  | ok u =>
    rw [ht] at h
    change ((Router.create u c).mapError _ >>= fun r => .ok (r, u)) = _ at h
    cases hr : Router.create u c with
    | error e =>
      rw [hr] at h
      cases h
    | ok q =>
      rw [hr] at h
      cases h
      exact hr

theorem bucketLines_of_path (keys : List String) :
    s.bucketLines c (some path) keys = (s.router c path).map fun _ => keys.map c.bucketLine := by
  rw [bucketLines]
  cases s.router c path <;> rfl

end Surroundings

/-- The router of a store hashes as the settings say, whatever the store has been through, so a
bucket and a route that are printed for a key agree, unless the topology is refused for both. -/
theorem configured_hashing_agrees (c : Config) :
    (∀ (t₀ : Topology) (r : Router), Router.create t₀ c = .ok r →
      ∀ (os : List Operation) (key : String),
        r.HashesLike c ((Store.opening t₀).run os).current key) ∧
    ∀ (s : Surroundings) (path : String) (keys : List String),
      match s.router c path with
      | .error complaint => s.bucketLines c (some path) keys = .error complaint
      | .ok (r, t) => s.bucketLines c (some path) keys = .ok (keys.map c.bucketLine) ∧
          ∀ key, PrintsAlike c r t key := by
  constructor
  · intro t₀ r h os key
    have htracks := (Store.tracks_opening t₀ rfl).run os
    exact Router.hashesLike_of_create h htracks.space key
  · intro s path keys
    have hlines := s.bucketLines_of_path c path keys
    cases hrouter : s.router c path with
    | error complaint =>
      rw [hrouter] at hlines
      exact hlines
    | ok routed =>
      obtain ⟨r, t⟩ := routed
      rw [hrouter] at hlines
      exact ⟨hlines, printsAlike_of_create (s.create_of_router c path hrouter)⟩

theorem configured_hashing_agrees_copied :
    Router.create Topology.copying { space := 16 } = .ok ⟨'$', .source⟩ ∧
      (⟨'$', .source⟩ : Router).HashesLike { space := 16 }
        ((Store.opening Topology.copying).run [.derive (.completeMigration 10),
          .publish Topology.copied, .refresh (.error (.unreadable "t.json" .notUtf8))]).current
        "orders/9$Users/1" :=
  ⟨rfl, (configured_hashing_agrees { space := 16 }).1 Topology.copying ⟨'$', .source⟩ rfl _ _⟩

end ShardRouting
