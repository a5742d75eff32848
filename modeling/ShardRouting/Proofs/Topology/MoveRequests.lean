import ShardRouting.Proofs.Topology.MoveSteps

namespace ShardRouting

namespace Topology

inductive RefusesStart (t : Topology) (b : Bucket) (d : ShardNumber) : TopologyError → Prop
  | outOfSpace (h : t.space ≤ b) : RefusesStart t b d (.migrationOutOfSpace b t.space)
  | recorded (inSpace : b < t.space) {m : Move} (h : t.move? b = some m) :
    RefusesStart t b d (.migrationExists b)
  | ownShard (inSpace : b < t.space) (free : t.move? b = none) (h : d = t.owner b) :
    RefusesStart t b d (.selfMigration b d)
  | unknownShard (inSpace : b < t.space) (free : t.move? b = none) (apart : d ≠ t.owner b)
    (h : d ∉ t.shards) : RefusesStart t b d (.unknownShard d)

inductive RefusesCancel (t : Topology) (b : Bucket) : TopologyError → Prop
  | unrecorded (h : t.move? b = none) : RefusesCancel t b (.noMigration b)
  | done {m : Move} (recorded : t.move? b = some m) (h : m.status = .done) :
    RefusesCancel t b (.noMigration b)

structure Rerecords (t : Topology) (b : Bucket) (record : Option Move) (t' : Topology) : Prop where
  version : t'.version.toNat = t.version.toNat + 1
  space : t'.space = t.space
  shards : t'.shards = t.shards
  ranges : t'.ranges = t.ranges
  move : ∀ c, t'.move? c = if c = b then record else t.move? c

variable {t t' t'' : Topology} {b : Bucket} {d : ShardNumber}

theorem refusal?_start_eq_some_iff (e : TopologyError) :
    t.refusal? b (.start d) = some e ↔ t.RefusesStart b d e := by
  have howner := t.owner_mem b
  rw [refusal?, Layout.moveViolation?_eq]
  constructor
  · intro h
    split at h
    · next hb => cases h; exact .outOfSpace hb
    next hb =>
    have inSpace := UInt32.not_le.mp hb
    split at h
    · next hm =>
      obtain ⟨m, hm⟩ := Option.isSome_iff_exists.mp hm
      cases h
      exact .recorded inSpace hm
    next hm =>
    have free := Option.not_isSome_iff_eq_none.mp hm
    dsimp only at h
    split at h
    · next ho =>
      subst ho
      cases h
      exact .ownShard inSpace free rfl
    next ho =>
    split at h
    · next hd => cases h; exact .unknownShard inSpace free (Ne.symm ho) hd
    next hd => simp at h
  · intro h
    cases h with
    | outOfSpace h => rw [if_pos h]
    | recorded inSpace h => simp [UInt32.not_le.mpr inSpace, h]
    | ownShard inSpace free h => simp [UInt32.not_le.mpr inSpace, free, h]
    | unknownShard inSpace free apart h =>
      simp [UInt32.not_le.mpr inSpace, free, Ne.symm apart, howner, h]

theorem refusal?_cancel_eq_some_iff (e : TopologyError) :
    t.refusal? b .cancel = some e ↔ t.RefusesCancel b e := by
  rw [refusal?]
  cases hm : t.move? b with
  | none =>
    constructor
    · intro h
      cases h
      exact .unrecorded hm
    · rintro (_ | _)
      · rfl
      · rfl
  | some m =>
    cases hs : m.status with
    | moving =>
      have hmoving : m.isMoving = true := decide_eq_true hs
      simp only [Option.any_some, hmoving, if_true, reduceCtorEq, false_iff]
      rintro (h | ⟨h, hdone⟩)
      · exact absurd (hm.symm.trans h) (by simp)
      · obtain rfl := Option.some.inj (hm.symm.trans h)
        exact absurd (hs.symm.trans hdone) (by simp)
    | done =>
      have hmoving : m.isMoving = false := by rw [Move.isMoving, hs]; rfl
      constructor
      · intro h
        rw [Option.any_some, hmoving] at h
        cases h
        exact .done hm hs
      · intro h
        rw [Option.any_some, hmoving]
        cases h <;> rfl

theorem outcome_of_step {m : MoveStep} {refuses : TopologyError → Prop} {makes : Topology → Prop}
    (hv : t.version.toNat + 1 < UInt64.size)
    (hrefuses : ∀ e, t.refusal? b m = some e ↔ refuses e)
    (hmakes : ∀ t', t.Moved b m t' → makes t') : t.Outcome (m.derivation b) refuses makes := by
  rcases t.decided b m hv with ⟨e, hr, hd⟩ | ⟨hr, next, hd, hmoved⟩
  · refine ⟨?_, ?_, ?_⟩
    · intro e'
      rw [hd, ← hrefuses, hr]
      simp
    · intro hnone
      exact absurd ((hrefuses e).mp hr) (hnone e)
    · intro t' ht'
      rw [hd] at ht'
      cases ht'
  · refine ⟨?_, ?_, ?_⟩
    · intro e
      rw [hd, ← hrefuses, hr]
      simp
    · intro _
      exact ⟨next, hd⟩
    · intro t' ht'
      rw [hd] at ht'
      cases ht'
      exact hmakes next hmoved

theorem rerecords_of_moved {m : MoveStep} (hm : m ≠ .complete) (h : t.Moved b m t') :
    t.Rerecords b (t.recordAfter b m) t' :=
  ⟨h.version, h.space, h.shards, h.ranges hm, h.move⟩

theorem outcome_start (hv : t.version.toNat + 1 < UInt64.size) (b : Bucket) (d : ShardNumber) :
    t.Outcome (.beginMigration b d) (t.RefusesStart b d)
      (t.Rerecords b (some ⟨t.owner b, d, .moving⟩)) :=
  outcome_of_step (m := .start d) hv refusal?_start_eq_some_iff
    fun _ => rerecords_of_moved (by simp)

theorem outcome_cancel (hv : t.version.toNat + 1 < UInt64.size) (b : Bucket) :
    t.Outcome (.cancelMigration b) (t.RefusesCancel b) (t.Rerecords b none) :=
  outcome_of_step (m := .cancel) hv refusal?_cancel_eq_some_iff
    fun _ => rerecords_of_moved (by simp)

theorem exists_cancel_iff (hv : t.version.toNat + 1 < UInt64.size) :
    (∃ t', t.derive (.cancelMigration b) = .ok t') ↔
      ∃ m, t.move? b = some m ∧ m.status = .moving := by
  constructor
  · rintro ⟨t', ht'⟩
    obtain ⟨l, hl, -, -⟩ := derive_eq_ok_iff.mp ht'
    obtain ⟨m, hm, hmoving, -⟩ := cancelMigration_eq_ok.mp hl
    exact ⟨m, hm, of_decide_eq_true hmoving⟩
  · rintro ⟨m, hm, hs⟩
    apply (outcome_cancel hv b).succeeds
    rintro _ (h | ⟨h, hdone⟩)
    · exact absurd (hm.symm.trans h) (by simp)
    · obtain rfl := Option.some.inj (hm.symm.trans h)
      exact absurd (hs.symm.trans hdone) (by simp)

theorem Rerecords.layout_of_undone {record : Option Move} (h : t.Rerecords b record t')
    (h' : t'.Rerecords b (t.move? b) t'') :
    t''.toLayout = { t.toLayout with version := t''.version } := by
  refine Layout.ext rfl ?_ ?_ ?_ ?_
  · exact h'.space.trans h.space
  · exact h'.shards.trans h.shards
  · exact h'.ranges.trans h.ranges
  · apply OrderedMap.ext_get?
    intro c
    have hc : t''.move? c = t.move? c := by
      rw [h'.move, h.move]
      split
      · next hcb => rw [hcb]
      · rfl
    exact hc

theorem exists_undone (hbegun : t.derive (.beginMigration b d) = .ok t')
    (hv : t.version.toNat + 2 < UInt64.size) :
    ∃ t'', t'.derive (.cancelMigration b) = .ok t'' ∧
      t''.version.toNat = t.version.toNat + 2 ∧
      t''.toLayout = { t.toLayout with version := t''.version } := by
  obtain ⟨l, hl, -, -⟩ := derive_eq_ok_iff.mp hbegun
  obtain ⟨-, hfree, -⟩ := beginMigration_eq_ok.mp hl
  have hrecorded := (outcome_start (by omega) b d).made t' hbegun
  have hversion := hrecorded.version
  have hmove := (hrecorded.move b).trans (if_pos rfl)
  obtain ⟨t'', ht''⟩ := (exists_cancel_iff (by omega)).mpr ⟨_, hmove, rfl⟩
  have hdropped := (outcome_cancel (by omega) b).made t'' ht''
  refine ⟨t'', ht'', ?_, ?_⟩
  · rw [hdropped.version, hversion]
  · exact hrecorded.layout_of_undone (hfree ▸ hdropped)

structure SharesBucket (b : Bucket) (t u : Topology) : Prop where
  space : u.space = t.space
  shards : u.shards = t.shards
  ranges : u.ranges = t.ranges
  move : u.move? b = t.move? b

namespace SharesBucket

variable {u : Topology}

theorem symm (h : SharesBucket b t u) : SharesBucket b u t :=
  ⟨h.space.symm, h.shards.symm, h.ranges.symm, h.move.symm⟩

theorem owner (h : SharesBucket b t u) : u.owner b = t.owner b := by
  rw [Layout.owner, Layout.owner, h.ranges]

theorem refusesStart (h : SharesBucket b t u) {e : TopologyError} (he : t.RefusesStart b d e) :
    u.RefusesStart b d e := by
  cases he with
  | outOfSpace hb => rw [← h.space] at hb ⊢; exact .outOfSpace hb
  | recorded inSpace hm => exact .recorded (h.space ▸ inSpace) (h.move.trans hm)
  | ownShard inSpace free ho =>
    exact .ownShard (h.space ▸ inSpace) (h.move.trans free) (ho.trans h.owner.symm)
  | unknownShard inSpace free apart hd =>
    exact .unknownShard (h.space ▸ inSpace) (h.move.trans free) (h.owner ▸ apart) (h.shards ▸ hd)

theorem refusesCancel (h : SharesBucket b t u) {e : TopologyError} (he : t.RefusesCancel b e) :
    u.RefusesCancel b e := by
  cases he with
  | unrecorded hm => exact .unrecorded (h.move.trans hm)
  | done hm hs => exact .done (h.move.trans hm) hs

theorem derive_eq (h : SharesBucket b t u) (hv : t.version.toNat + 1 < UInt64.size)
    (hv' : u.version.toNat + 1 < UInt64.size) (e : TopologyError) :
    (u.derive (.beginMigration b d) = .error (.refused e) ↔
      t.derive (.beginMigration b d) = .error (.refused e)) ∧
    (u.derive (.cancelMigration b) = .error (.refused e) ↔
      t.derive (.cancelMigration b) = .error (.refused e)) := by
  rw [(outcome_start hv b d).refused, (outcome_start hv' b d).refused,
    (outcome_cancel hv b).refused, (outcome_cancel hv' b).refused]
  exact ⟨⟨h.symm.refusesStart, h.refusesStart⟩, ⟨h.symm.refusesCancel, h.refusesCancel⟩⟩

end SharesBucket

structure AnswersMoves (t : Topology) (b : Bucket) (d : ShardNumber) : Prop where
  start : t.Outcome (.beginMigration b d) (t.RefusesStart b d)
    (t.Rerecords b (some ⟨t.owner b, d, .moving⟩))
  cancel : t.Outcome (.cancelMigration b) (t.RefusesCancel b) (t.Rerecords b none)
  cancels_iff : (∃ t', t.derive (.cancelMigration b) = .ok t') ↔
    ∃ m, t.move? b = some m ∧ m.status = .moving
  undone : t.version.toNat + 2 < UInt64.size →
    ∀ t', t.derive (.beginMigration b d) = .ok t' →
      ∃ t'', t'.derive (.cancelMigration b) = .ok t'' ∧
        t''.version.toNat = t.version.toNat + 2 ∧
        t''.toLayout = { t.toLayout with version := t''.version }
  isolated : ∀ u, SharesBucket b t u → u.version.toNat + 1 < UInt64.size → ∀ e,
    (u.derive (.beginMigration b d) = .error (.refused e) ↔
      t.derive (.beginMigration b d) = .error (.refused e)) ∧
    (u.derive (.cancelMigration b) = .error (.refused e) ↔
      t.derive (.cancelMigration b) = .error (.refused e))

theorem move_requests_exact (t : Topology) (b : Bucket) (d : ShardNumber)
    (hv : t.version.toNat + 1 < UInt64.size) : t.AnswersMoves b d where
  start := outcome_start hv b d
  cancel := outcome_cancel hv b
  cancels_iff := exists_cancel_iff hv
  undone := fun hroom _ hbegun => exists_undone hbegun hroom
  isolated := fun _ hu hv' e => hu.derive_eq hv hv' e

def rebalancing : Topology where
  toLayout := ⟨5, 8, .ofList [0, 1, 2], [⟨0, 0⟩, ⟨4, 1⟩],
    .ofList [(2, ⟨0, 1, .done⟩), (5, ⟨1, 0, .moving⟩)]⟩
  wellFormed := (Layout.wellFormed_iff _ (by decide)).mpr (by decide)

theorem move_requests_exact_rebalancing :
    rebalancing.version.toNat + 1 < UInt64.size ∧ rebalancing.AnswersMoves 3 2 :=
  ⟨by decide, move_requests_exact rebalancing 3 2 (by decide)⟩

end Topology

end ShardRouting
