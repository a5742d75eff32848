import ShardRouting.Proofs.Store.Run
import ShardRouting.Proofs.Topology.CutOver

/-!
The moves of one bucket over a run of local changes. Begins and ends of its moves alternate, a
record stands as it was begun until its move ends, and while it copies its source keeps the bucket.
-/

namespace ShardRouting

inductive MoveEvent
  | began
  | ended
deriving DecidableEq

def Derivation.moveEvent? (b : Bucket) : Derivation → Option MoveEvent
  | .beginMigration c _ => if c = b then some .began else none
  | .completeMigration c => if c = b then some .ended else none
  | .cancelMigration c => if c = b then some .ended else none
  | .splitRange _ _ => none
  | .mergeRanges => none
  | .addShard _ => none

inductive MoveTurn (b : Bucket) (t : Topology) (d : Derivation) (t' : Topology) :
    Option MoveEvent → Prop
  | idle (kept : t'.move? b = t.move? b) : MoveTurn b t d t' none
  | began {destination : ShardNumber} (asked : d = .beginMigration b destination)
    (free : t.move? b = none) (recorded : t'.move? b = some ⟨t.owner b, destination, .moving⟩) :
    MoveTurn b t d t' (some .began)
  | ended {m : Move} (recorded : t.move? b = some m) (dropped : t'.move? b = none) :
    MoveTurn b t d t' (some .ended)

namespace Topology

variable {t t' : Topology}

theorem turn_of_erase {d : Derivation} {b c : Bucket} {m : Move} (hm : t.move? c = some m)
    (hmove : t'.move? b = (t.moves.erase c).get? b) :
    MoveTurn b t d t' (if c = b then some .ended else none) := by
  rw [OrderedMap.get?_erase] at hmove
  by_cases hc : c = b
  · subst hc
    rw [if_pos rfl] at hmove ⊢
    exact .ended hm hmove
  · rw [if_neg (Ne.symm hc)] at hmove
    rw [if_neg hc]
    exact .idle hmove

theorem turn_of_derive {d : Derivation} (h : t.derive d = .ok t') (b : Bucket) :
    MoveTurn b t d t' (d.moveEvent? b) := by
  obtain ⟨l, hl, -, ht'⟩ := derive_eq_ok_iff.mp h
  have hmove : t'.move? b = l.moves.get? b := congrArg (·.moves.get? b) ht'
  cases d with
  | beginMigration c destination =>
    obtain ⟨-, hfree, rfl⟩ := beginMigration_eq_ok.mp hl
    rw [OrderedMap.get?_insert] at hmove
    rw [Derivation.moveEvent?]
    by_cases hc : c = b
    · subst hc
      rw [if_pos rfl] at hmove ⊢
      exact .began rfl hfree hmove
    · rw [if_neg (Ne.symm hc)] at hmove
      rw [if_neg hc]
      exact .idle hmove
  | completeMigration c =>
    obtain ⟨m, hm, rfl⟩ := completeMigration_eq_ok.mp hl
    exact turn_of_erase hm hmove
  | cancelMigration c =>
    obtain ⟨m, hm, -, rfl⟩ := cancelMigration_eq_ok.mp hl
    exact turn_of_erase hm hmove
  | splitRange c s =>
    obtain ⟨-, -, -, rfl⟩ := splitRange_eq_ok.mp hl
    exact .idle hmove
  | mergeRanges =>
    cases hl
    exact .idle hmove
  | addShard s =>
    cases hl
    exact .idle hmove

end Topology

namespace Store

def moveEvent? (b : Bucket) (s : Store) (d : Derivation) : Option MoveEvent :=
  if ((step (.derive d)).on s).1.isOk then d.moveEvent? b else none

def moveEvents (b : Bucket) (s : Store) : List Derivation → List MoveEvent
  | [] => []
  | d :: rest => (s.moveEvent? b d).toList ++ (s.after (.derive d)).moveEvents b rest

def moveHistory (b : Bucket) (s : Store) (ds : List Derivation) : List MoveEvent :=
  (if (s.current.move? b).isSome then [.began] else []) ++ s.moveEvents b ds

def runChanges (s : Store) (ds : List Derivation) : Store := s.run (ds.map .derive)

def phase (b : Bucket) (s : Store) : MoveEvent :=
  if (s.current.move? b).isSome then .began else .ended

variable {b : Bucket} {s : Store} {ds : List Derivation}

theorem runChanges_append (s : Store) (ds ds' : List Derivation) :
    s.runChanges (ds ++ ds') = (s.runChanges ds).runChanges ds' := by
  simp only [runChanges, run, List.map_append, List.foldl_append]

theorem turn (b : Bucket) (s : Store) (d : Derivation) :
    MoveTurn b s.current d (s.after (.derive d)).current (s.moveEvent? b d) := by
  rcases announced_update_cases (·.derive d) s with ⟨next, hon, -, hd⟩ | ⟨e, hon⟩
  · have hafter : s.after (.derive d) = opening next := congrArg Prod.snd hon
    have hevent : s.moveEvent? b d = d.moveEvent? b := by
      rw [moveEvent?, step, derive, hon]
      rfl
    rw [hafter, hevent]
    exact Topology.turn_of_derive hd b
  · have hafter : s.after (.derive d) = s := congrArg Prod.snd hon
    have hevent : s.moveEvent? b d = none := by
      rw [moveEvent?, step, derive, hon]
      rfl
    rw [hafter, hevent]
    exact .idle rfl

theorem phase_of_idle {d : Derivation} (h : s.moveEvent? b d = none) :
    (s.after (.derive d)).phase b = s.phase b := by
  have hturn := s.turn b d
  rw [h] at hturn
  cases hturn with
  | idle kept => rw [phase, phase, kept]

theorem phase_of_event {d : Derivation} {e : MoveEvent} (h : s.moveEvent? b d = some e) :
    s.phase b ≠ e ∧ (s.after (.derive d)).phase b = e := by
  have hturn := s.turn b d
  rw [h] at hturn
  cases hturn with
  | began _ free recorded => simp [phase, free, recorded]
  | ended recorded dropped => simp [phase, recorded, dropped]

theorem phase_eq_began_iff : s.phase b = .began ↔ (s.current.move? b).isSome := by
  rw [phase]
  split <;> simp [*]

theorem isChain_phase (b : Bucket) (s : Store) (ds : List Derivation) :
    (s.phase b :: s.moveEvents b ds).IsChain (· ≠ ·) ∧
      (s.phase b :: s.moveEvents b ds).getLast? = some ((s.runChanges ds).phase b) := by
  induction ds generalizing s with
  | nil => exact ⟨.singleton _, rfl⟩
  | cons d rest ih =>
    obtain ⟨hchain, hlast⟩ := ih (s.after (.derive d))
    have hrun : s.runChanges (d :: rest) = (s.after (.derive d)).runChanges rest := rfl
    rw [moveEvents, hrun]
    cases hevent : s.moveEvent? b d with
    | none =>
      rw [phase_of_idle hevent] at hchain hlast
      exact ⟨hchain, hlast⟩
    | some e =>
      obtain ⟨hne, he⟩ := phase_of_event hevent
      rw [he] at hchain hlast
      rw [Option.toList_some, List.singleton_append]
      exact ⟨List.isChain_cons_cons.mpr ⟨hne, hchain⟩, by rwa [List.getLast?_cons_cons]⟩

theorem moveHistory_of_isSome (h : (s.current.move? b).isSome) :
    s.moveHistory b ds = s.phase b :: s.moveEvents b ds := by
  rw [moveHistory, phase, if_pos h, if_pos h, List.singleton_append]

theorem moveHistory_of_isNone (h : ¬(s.current.move? b).isSome) (ds : List Derivation) :
    s.phase b = .ended ∧ s.moveHistory b ds = s.moveEvents b ds := by
  rw [moveHistory, phase, if_neg h, if_neg h, List.nil_append]
  exact ⟨rfl, rfl⟩

theorem moveHistory_isChain (b : Bucket) (s : Store) (ds : List Derivation) :
    (s.moveHistory b ds).IsChain (· ≠ ·) ∧ (s.moveHistory b ds).head? ≠ some .ended := by
  obtain ⟨hchain, -⟩ := s.isChain_phase b ds
  by_cases hm : (s.current.move? b).isSome
  · rw [moveHistory_of_isSome hm]
    refine ⟨hchain, ?_⟩
    simp [phase_eq_began_iff.mpr hm]
  · obtain ⟨hphase, hhistory⟩ := moveHistory_of_isNone hm ds
    rw [hphase, List.isChain_cons] at hchain
    rw [hhistory]
    exact ⟨hchain.2, fun hhead => hchain.1 .ended hhead rfl⟩

theorem isSome_move?_iff (b : Bucket) (s : Store) (ds : List Derivation) :
    ((s.runChanges ds).current.move? b).isSome ↔ (s.moveHistory b ds).getLast? = some .began := by
  obtain ⟨-, hlast⟩ := s.isChain_phase b ds
  rw [← phase_eq_began_iff, ← Option.some.injEq, ← hlast]
  by_cases hm : (s.current.move? b).isSome
  · rw [moveHistory_of_isSome hm]
  · obtain ⟨hphase, hhistory⟩ := moveHistory_of_isNone hm ds
    rw [hphase, hhistory, List.getLast?_cons]
    cases (s.moveEvents b ds).getLast? <;> simp

theorem move?_of_no_event (h : s.moveEvents b ds = []) :
    (s.runChanges ds).current.move? b = s.current.move? b := by
  induction ds generalizing s with
  | nil => rfl
  | cons d rest ih =>
    obtain ⟨hfirst, hrest⟩ := List.append_eq_nil_iff.mp h
    have hturn := s.turn b d
    rw [Option.toList_eq_nil_iff.mp hfirst] at hturn
    cases hturn with
    | idle kept => exact (ih hrest).trans kept

def BeginsLast (b : Bucket) (s : Store) (ds : List Derivation) (m : Move) : Prop :=
  ∃ before destination after, ds = before ++ .beginMigration b destination :: after ∧
    (s.runChanges before).moveEvent? b (.beginMigration b destination) = some .began ∧
    m = ⟨(s.runChanges before).current.owner b, destination, .moving⟩ ∧
    (s.runChanges (before ++ [.beginMigration b destination])).moveEvents b after = []

theorem BeginsLast.cons {d : Derivation} {m : Move}
    (h : (s.after (.derive d)).BeginsLast b ds m) : s.BeginsLast b (d :: ds) m := by
  obtain ⟨before, destination, after, rfl, hevent, hm, hafter⟩ := h
  exact ⟨d :: before, destination, after, rfl, hevent, hm, hafter⟩

theorem origin_of_record {m : Move} (h : (s.runChanges ds).current.move? b = some m) :
    (s.current.move? b = some m ∧ s.moveEvents b ds = []) ∨ s.BeginsLast b ds m := by
  induction ds generalizing s with
  | nil => exact .inl ⟨h, rfl⟩
  | cons d rest ih =>
    rcases ih h with ⟨hm, hrest⟩ | hbegun
    · -- the record is there after the first change, so that change kept it or began it
      have hturn := s.turn b d
      cases hevent : s.moveEvent? b d with
      | none =>
        rw [hevent] at hturn
        cases hturn with
        | idle kept => exact .inl ⟨kept.symm.trans hm, by rw [moveEvents, hevent, hrest]; rfl⟩
      | some e =>
        rw [hevent] at hturn
        cases hturn with
        | began asked free recorded =>
          subst asked
          have heq := Option.some.inj (recorded.symm.trans hm)
          exact .inr ⟨[], _, rest, rfl, hevent, heq.symm, hrest⟩
        | ended _ dropped => exact absurd (dropped.symm.trans hm) (by simp)
    · exact .inr hbegun.cons

structure FollowsProtocol (b : Bucket) (s : Store) (ds : List Derivation) : Prop where
  alternates : (s.moveHistory b ds).IsChain (· ≠ ·)
  starts : (s.moveHistory b ds).head? ≠ some .ended
  recorded_iff :
    ((s.runChanges ds).current.move? b).isSome ↔ (s.moveHistory b ds).getLast? = some .began
  unaltered : ∀ before after, ds = before ++ after →
    (s.runChanges before).moveEvents b after = [] →
    (s.runChanges ds).current.move? b = (s.runChanges before).current.move? b
  origin : ∀ m, (s.runChanges ds).current.move? b = some m →
    (s.current.move? b = some m ∧ s.moveEvents b ds = []) ∨ s.BeginsLast b ds m
  done_kept : ∀ m, (s.runChanges ds).current.move? b = some m → m.status = .done →
    s.current.move? b = some m ∧ s.moveEvents b ds = []
  owned : ∀ before after m, ds = before ++ after →
    (s.runChanges before).current.move? b = some m → m.isMoving →
    (s.runChanges before).moveEvents b after = [] →
    (s.runChanges before).current.owner b = m.source ∧
      (s.runChanges ds).current.move? b = some m ∧ (s.runChanges ds).current.owner b = m.source

theorem moves_follow_protocol (b : Bucket) (s : Store) (ds : List Derivation) :
    s.FollowsProtocol b ds where
  alternates := (s.moveHistory_isChain b ds).1
  starts := (s.moveHistory_isChain b ds).2
  recorded_iff := s.isSome_move?_iff b ds
  unaltered := by
    rintro before after rfl hnone
    rw [runChanges_append]
    exact move?_of_no_event hnone
  origin _ := origin_of_record
  done_kept := by
    intro m hm hdone
    rcases origin_of_record hm with hkept | ⟨before, destination, after, -, -, rfl, -⟩
    · exact hkept
    · cases hdone
  owned := by
    rintro before after m rfl hm hmoving hnone
    have hm' : (s.runChanges (before ++ after)).current.move? b = some m := by
      rw [runChanges_append, move?_of_no_event hnone, hm]
    exact ⟨(Topology.admits_of_move? hm).owned hmoving, hm',
      (Topology.admits_of_move? hm').owned hmoving⟩

example : (opening Topology.copying).moveHistory 10 [.beginMigration 10 1, .splitRange 12 0,
    .completeMigration 10, .beginMigration 11 0, .beginMigration 10 1] =
      [.began, .ended, .began] := by decide

end Store

end ShardRouting
