import ShardRouting.Proofs.RangeTable.Canonical
import ShardRouting.Proofs.Store.Interleaving
import ShardRouting.Proofs.Store.Run

/-!
Moves of different buckets in any order. The steps of one bucket meet the answers that they would
meet alone, and all interleavings of the scripts end with one topology.
-/

namespace ShardRouting

namespace Topology

structure Alike (b : Bucket) (t u : Topology) : Prop where
  space : t.space = u.space
  shards : t.shards = u.shards
  move : t.move? b = u.move? b
  owner : b < t.space → t.owner b = u.owner b

namespace Alike

variable {b : Bucket} {t u : Topology}

theorem refl (b : Bucket) (t : Topology) : t.Alike b t := ⟨rfl, rfl, rfl, fun _ => rfl⟩

theorem symm (h : t.Alike b u) : u.Alike b t :=
  ⟨h.space.symm, h.shards.symm, h.move.symm, fun hb => (h.owner (h.space ▸ hb)).symm⟩

theorem trans {v : Topology} (h : t.Alike b u) (h' : u.Alike b v) : t.Alike b v :=
  ⟨h.space.trans h'.space, h.shards.trans h'.shards, h.move.trans h'.move, fun hb =>
    (h.owner hb).trans (h'.owner (h.space ▸ hb))⟩

theorem refusal?_eq (h : t.Alike b u) (m : MoveStep) : t.refusal? b m = u.refusal? b m := by
  cases m with
  | start d =>
    rw [refusal?, refusal?, ← h.space, ← h.move]
    split
    · rfl
    · next hb =>
      have ho := h.owner (UInt32.not_le.mp hb)
      rw [← ho, Layout.moveViolation?_eq, Layout.moveViolation?_eq, ← ho, ← h.space, ← h.shards]
  | complete => rw [refusal?, refusal?, h.move]
  | cancel => rw [refusal?, refusal?, h.move]

theorem moved (h : t.Alike b u) {m : MoveStep} {t' u' : Topology} (ht : t.Moved b m t')
    (hu : u.Moved b m u') (hb : b < t.space) : t'.Alike b u' := by
  have ho := h.owner hb
  refine ⟨?_, ?_, ?_, ?_⟩
  · rw [ht.space, hu.space, h.space]
  · rw [ht.shards, hu.shards, h.shards]
  · rw [ht.move, hu.move, if_pos rfl, if_pos rfl]
    cases m with
    | start d => rw [recordAfter, recordAfter, ho]
    | complete => rfl
    | cancel => rfl
  · intro _
    rw [ht.owner b hb, hu.owner b (h.space ▸ hb), if_pos rfl, if_pos rfl]
    cases m with
    | start d => exact ho
    | complete => rw [ownerAfter, ownerAfter, h.move, ho]
    | cancel => exact ho

end Alike

theorem Moved.alike {b c : Bucket} {m : MoveStep} {t t' : Topology} (h : t.Moved c m t')
    (hbc : b ≠ c) : t'.Alike b t := by
  refine ⟨h.space, h.shards, ?_, ?_⟩
  · rw [h.move, if_neg hbc]
  · intro hb
    rw [h.owner b (h.space ▸ hb), if_neg hbc]

theorem inSpace_of_refusal? {b : Bucket} {m : MoveStep} {t : Topology}
    (h : t.refusal? b m = none) : b < t.space := by
  cases m with
  | start d =>
    rw [refusal?] at h
    split at h
    · exact absurd h (by simp)
    · next hb => exact UInt32.not_le.mp hb
  | complete =>
    cases hm : t.move? b with
    | none => simp [refusal?, hm] at h
    | some m => exact (admits_of_move? hm).inSpace
  | cancel =>
    cases hm : t.move? b with
    | none => simp [refusal?, hm] at h
    | some m => exact (admits_of_move? hm).inSpace

end Topology

namespace Store

def call (s : Store) (x : BucketStep) : Attempt TopologyError Unit × Store :=
  Action.on ((fun _ => ()) <$> derive (x.2.derivation x.1)) s

def log (s : Store) : List BucketStep → List (BucketStep × Attempt TopologyError Unit)
  | [] => []
  | x :: rest => (x, (s.call x).1) :: (s.call x).2.log rest

def replay (s : Store) (xs : List BucketStep) : Store := xs.foldl (fun s x => (s.call x).2) s

def logOf (s : Store) (b : Bucket) (xs : List BucketStep) :
    List (BucketStep × Attempt TopologyError Unit) := (s.log xs).filter (·.1.1 = b)

variable {s u : Store} {b : Bucket}

theorem call_cases (x : BucketStep) (hv : s.version.toNat + 1 < UInt64.size) :
    (∃ e, s.current.refusal? x.1 x.2 = some e ∧ s.call x = (.error (.refused e), s)) ∨
      (s.current.refusal? x.1 x.2 = none ∧
        ∃ t, s.call x = (.ok (), opening t) ∧ s.current.Moved x.1 x.2 t) := by
  have hcall : s.call x =
      (((update (·.derive (x.2.derivation x.1))).on s).1.map fun _ => (),
        ((update (·.derive (x.2.derivation x.1))).on s).2) := Action.on_map ..
  rw [update_on] at hcall
  rcases s.current.decided x.1 x.2 hv with ⟨e, hr, hd⟩ | ⟨hr, t, hd, hmoved⟩
  · rw [hd] at hcall
    exact .inl ⟨e, hr, hcall⟩
  · have hnewer : ¬t.version ≤ s.current.version := by
      rw [UInt64.le_iff_toNat_le, hmoved.version]
      omega
    rw [hd] at hcall
    dsimp only at hcall
    rw [if_neg hnewer, if_neg (not_not_intro hmoved.space)] at hcall
    exact .inr ⟨hr, t, hcall, hmoved⟩

theorem version_call_le (x : BucketStep) (hv : s.version.toNat + 1 < UInt64.size) :
    (s.call x).2.version.toNat ≤ s.version.toNat + 1 := by
  rcases s.call_cases x hv with ⟨e, -, hon⟩ | ⟨-, t, hon, hmoved⟩
  · rw [hon]
    exact Nat.le_succ _
  · rw [hon]
    exact Nat.le_of_eq hmoved.version

theorem alike_call_of_ne {x : BucketStep} (hx : x.1 ≠ b)
    (hv : s.version.toNat + 1 < UInt64.size) :
    (s.call x).2.current.Alike b s.current := by
  rcases s.call_cases x hv with ⟨e, -, hon⟩ | ⟨-, t, hon, hmoved⟩
  · rw [hon]
    exact .refl b s.current
  · rw [hon]
    exact hmoved.alike (Ne.symm hx)

theorem alike_call (h : s.current.Alike b u.current) (m : MoveStep)
    (hs : s.version.toNat + 1 < UInt64.size) (hu : u.version.toNat + 1 < UInt64.size) :
    (s.call (b, m)).1 = (u.call (b, m)).1 ∧
      (s.call (b, m)).2.current.Alike b (u.call (b, m)).2.current := by
  have heq : s.current.refusal? b m = u.current.refusal? b m := h.refusal?_eq m
  rcases s.call_cases (b, m) hs with ⟨e, hr, hon⟩ | ⟨hr, t, hon, hmoved⟩
  · rcases u.call_cases (b, m) hu with ⟨e', hr', hon'⟩ | ⟨hr', -⟩
    · obtain rfl := Option.some.inj (hr.symm.trans (heq.trans hr'))
      rw [hon, hon']
      exact ⟨rfl, h⟩
    · exact absurd (hr.symm.trans (heq.trans hr')) (by simp)
  · rcases u.call_cases (b, m) hu with ⟨e', hr', -⟩ | ⟨-, t', hon', hmoved'⟩
    · exact absurd (hr.symm.trans (heq.trans hr')) (by simp)
    · rw [hon, hon']
      exact ⟨rfl, h.moved hmoved hmoved' (Topology.inSpace_of_refusal? hr)⟩

theorem logOf_eq (h : s.current.Alike b u.current) (xs : List BucketStep)
    (hs : s.version.toNat + xs.length < UInt64.size)
    (hu : u.version.toNat + xs.length < UInt64.size) :
    s.logOf b xs = u.log (xs.filter (·.1 = b)) ∧
      (s.replay xs).current.Alike b (u.replay (xs.filter (·.1 = b))).current := by
  induction xs generalizing s u with
  | nil => exact ⟨rfl, h⟩
  | cons x rest ih =>
    rw [List.length_cons] at hs hu
    have hs' := s.version_call_le x (by omega)
    have hu' := u.version_call_le x (by omega)
    by_cases hx : x.1 = b
    · obtain ⟨c, m⟩ := x
      obtain rfl : c = b := hx
      obtain ⟨hanswer, halike⟩ := alike_call h m (by omega) (by omega)
      obtain ⟨hlog, hfinal⟩ := ih halike (by omega) (by omega)
      rw [List.filter_cons_of_pos (by simp)]
      refine ⟨?_, hfinal⟩
      rw [log, ← hlog, ← hanswer, logOf, log, List.filter_cons_of_pos (by simp)]
      rfl
    · have halike := (alike_call_of_ne hx (by omega)).trans h
      obtain ⟨hlog, hfinal⟩ := ih halike (by omega) (by omega)
      rw [List.filter_cons_of_neg (by simpa using hx)]
      refine ⟨?_, hfinal⟩
      rw [← hlog, logOf, log, List.filter_cons_of_neg (by simpa using hx)]
      rfl

theorem version_replay (s : Store) (xs : List BucketStep)
    (hv : s.version.toNat + xs.length < UInt64.size) :
    (s.replay xs).version.toNat = s.version.toNat + (s.log xs).countP (·.2 = .ok ()) := by
  induction xs generalizing s with
  | nil => rfl
  | cons x rest ih =>
    rw [List.length_cons] at hv
    have hstep := s.version_call_le x (by omega)
    have hrest := ih (s.call x).2 (by omega)
    rw [log, List.countP_cons]
    change ((s.call x).2.replay rest).version.toNat = _
    rw [hrest]
    rcases s.call_cases x (by omega) with ⟨e, -, hon⟩ | ⟨-, t, hon, hmoved⟩
    · simp [hon]
    · have hversion : (s.call x).2.version.toNat = s.version.toNat + 1 := by
        rw [hon]
        exact hmoved.version
      rw [hversion]
      simp only [hon, decide_true, if_true]
      omega

def completed (e : BucketStep × Attempt TopologyError Unit) : Bool :=
  e.1.2 = .complete ∧ e.2 = .ok ()

theorem ranges_replay (s : Store) (xs : List BucketStep)
    (hv : s.version.toNat + xs.length < UInt64.size) :
    if (s.log xs).any completed then (s.replay xs).current.ranges.Joined
    else (s.replay xs).current.ranges = s.current.ranges := by
  -- a table that a completion has joined is not changed by the steps that join nothing
  induction xs generalizing s with
  | nil => rfl
  | cons x rest ih =>
    rw [List.length_cons] at hv
    have hstep := s.version_call_le x (by omega)
    have hrest := ih (s.call x).2 (by omega)
    rw [log, List.any_cons]
    change if _ then ((s.call x).2.replay rest).current.ranges.Joined
      else ((s.call x).2.replay rest).current.ranges = _
    by_cases hany : ((s.call x).2.log rest).any completed
    · rw [if_pos hany] at hrest
      rw [if_pos (by rw [hany, Bool.or_true])]
      exact hrest
    · rw [if_neg hany] at hrest
      rw [Bool.eq_false_iff.mpr hany, Bool.or_false, hrest]
      rcases s.call_cases x (by omega) with ⟨e, -, hon⟩ | ⟨-, t, hon, hmoved⟩
      · simp [hon, completed]
      · by_cases hcomplete : x.2 = .complete
        · simpa [hon, completed, hcomplete, opening] using hmoved.joined hcomplete
        · simpa [hon, completed, hcomplete, opening] using hmoved.ranges hcomplete

theorem log_perm {xs ys : List BucketStep} (h : ∀ b, s.logOf b xs = s.logOf b ys) :
    (s.log xs).Perm (s.log ys) := by
  apply List.perm_iff_count.mpr
  intro e
  have hfilter := congrArg (List.count e) (h e.1.1)
  rwa [logOf, logOf, List.count_filter (by simp), List.count_filter (by simp)] at hfilter

section Agreement

variable {xs ys : List BucketStep} (hxs : s.version.toNat + xs.length < UInt64.size)
  (hys : s.version.toNat + ys.length < UInt64.size) (hlogs : ∀ b, s.logOf b xs = s.logOf b ys)
  (halike : ∀ b, (s.replay xs).current.Alike b (s.replay ys).current)

include hxs hys hlogs

theorem version_replay_eq :
    (s.replay xs).current.version = (s.replay ys).current.version := by
  apply UInt64.toNat_inj.mp
  have hx := s.version_replay xs hxs
  have hy := s.version_replay ys hys
  rw [(log_perm hlogs).countP_eq, ← hy] at hx
  exact hx

include halike

theorem ranges_replay_eq : (s.replay xs).current.ranges = (s.replay ys).current.ranges := by
  have hx := s.ranges_replay xs hxs
  have hy := s.ranges_replay ys hys
  rw [(log_perm hlogs).any_eq] at hx
  split at hx
  · next hany =>
    rw [if_pos hany] at hy
    have hcovers := (s.replay ys).current.wellFormed.covers
    rw [← (halike 0).space] at hcovers
    apply (s.replay xs).current.wellFormed.covers.eq_of_owner_eq hcovers hx hy
    intro b hb
    exact (halike b).owner hb
  · next hany =>
    rw [if_neg hany] at hy
    rw [hx, hy]

theorem current_replay_eq : (s.replay xs).current = (s.replay ys).current := by
  have hmoves : (s.replay xs).current.moves = (s.replay ys).current.moves :=
    OrderedMap.ext_get? fun b => (halike b).move
  apply Topology.ext_layout
  exact Layout.ext (version_replay_eq hxs hys hlogs) (halike 0).space (halike 0).shards
    (ranges_replay_eq hxs hys hlogs halike) hmoves

end Agreement

theorem interleavings_agree (t : Topology) (scripts : List Script)
    (hd : (scripts.map (·.bucket)).Nodup)
    (hv : t.version.toNat + (scripts.map Script.calls).flatten.length < UInt64.size)
    {xs ys : List BucketStep}
    (hxs : Interleaving (scripts.map Script.calls) xs)
    (hys : Interleaving (scripts.map Script.calls) ys) :
    (∀ σ ∈ scripts, (opening t).logOf σ.bucket xs = (opening t).log σ.calls ∧
      (opening t).logOf σ.bucket xs = (opening t).logOf σ.bucket ys) ∧
    ((opening t).replay xs).current = ((opening t).replay ys).current := by
  have hlx : (opening t).version.toNat + xs.length < UInt64.size := hxs.length_eq ▸ hv
  have hly : (opening t).version.toNat + ys.length < UInt64.size := hys.length_eq ▸ hv
  have hx := fun b => logOf_eq (.refl b (opening t).current) xs hlx hlx
  have hy := fun b => logOf_eq (.refl b (opening t).current) ys hly hly
  have hfilter := Script.filter_congr hd hxs hys
  have hlogs : ∀ b, (opening t).logOf b xs = (opening t).logOf b ys := by
    intro b
    rw [(hx b).1, (hy b).1, hfilter]
  refine ⟨?_, ?_⟩
  · intro σ hσ
    refine ⟨?_, hlogs σ.bucket⟩
    rw [(hx _).1, Script.filter_eq_calls hxs hd hσ]
  · apply current_replay_eq hlx hly hlogs
    intro b
    have halike := (hx b).2
    rw [hfilter] at halike
    exact halike.trans (hy b).2.symm

def halves : Topology where
  toLayout := ⟨1, 16, .ofList [0, 1], [⟨0, 0⟩, ⟨8, 1⟩], .empty⟩
  wellFormed := (Layout.wellFormed_iff _ (by decide)).mpr (by decide)

def exchange : List Script := [⟨7, [.start 1, .complete]⟩, ⟨8, [.start 0, .complete]⟩]

theorem interleavings_agree_exchange :
    let one : List BucketStep := [(7, .start 1), (7, .complete), (8, .start 0), (8, .complete)]
    let other : List BucketStep := [(8, .start 0), (7, .start 1), (8, .complete), (7, .complete)]
    (∀ σ ∈ exchange, (opening halves).logOf σ.bucket one = (opening halves).log σ.calls ∧
      (opening halves).logOf σ.bucket one = (opening halves).logOf σ.bucket other) ∧
    ((opening halves).replay one).current = ((opening halves).replay other).current := by
  have hone : Interleaving (exchange.map Script.calls)
      [(7, .start 1), (7, .complete), (8, .start 0), (8, .complete)] :=
    .cons (.cons .nil (.left _ (.left _ .nil))) (.left _ (.left _ (.right _ (.right _ .nil))))
  have hother : Interleaving (exchange.map Script.calls)
      [(8, .start 0), (7, .start 1), (8, .complete), (7, .complete)] :=
    .cons (.cons .nil (.left _ (.left _ .nil))) (.right _ (.left _ (.right _ (.left _ .nil))))
  exact interleavings_agree halves exchange (by decide) (by decide) hone hother

end Store

end ShardRouting
