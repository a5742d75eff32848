import ShardRouting.Proofs.Gather.Schedule

/-!
The wait for the tasks, followed arrival by arrival. What the arrivals taken so far have left behind
is the invariant; from it follows when the wait ends and what has come in by then.
-/

namespace ShardRouting

def Heard (past : List Arrival) (rs : Responses) : Prop :=
  ∀ s r, rs.get? s = some r ↔ ∃ a ∈ past, a.shard = s ∧ a.ending = .answer r

theorem Heard.record {past : List Arrival} {rs : Responses} (h : Heard past rs) {a : Arrival}
    (hnew : a.shard ∉ past.map Arrival.shard) : Heard (past ++ [a]) (a.record rs) := by
  intro s r
  have hmem : (∃ b ∈ past ++ [a], b.shard = s ∧ b.ending = .answer r) ↔
      rs.get? s = some r ∨ a.shard = s ∧ a.ending = .answer r := by
    rw [h s r]
    simp [or_and_right, exists_or]
  rw [hmem, Arrival.record]
  cases ha : a.ending with
  | death => simp
  | answer q =>
    rw [OrderedMap.get?_insert]
    by_cases hsa : s = a.shard
    · have hnone : rs.get? s ≠ some r := by
        intro hr
        obtain ⟨b, hb, hbs, -⟩ := (h s r).mp hr
        exact hnew (List.mem_map.mpr ⟨b, hb, hbs.trans hsa⟩)
      simp [hsa, hsa ▸ hnone]
    · simp [hsa, Ne.symm hsa]

namespace Gathered

structure Waits (l : Limits) (past : List Arrival) (g : Gathered) : Prop where
  going : g.interruption = none
  latest : IsLeast {t | ∀ a ∈ past, a.instant ≤ t} g.instant
  timely : ∀ a ∈ past, l.Admits a.instant
  heard : Heard past g.responses

section Await

variable {l : Limits}

theorem waits_nil : Waits l [] ⟨0, none, .empty⟩ where
  going := rfl
  latest := by simp [IsLeast, lowerBounds]
  timely := by simp
  heard := by simp [Heard, OrderedMap.get?, OrderedMap.empty]

def take (g : Gathered) (a : Arrival) : Gathered :=
  { g with instant := a.instant, responses := a.record g.responses }

theorem Waits.take {past : List Arrival} {g : Gathered} (h : Waits l past g) {a : Arrival}
    (ht : Timetable (past ++ [a])) (hin : l.Admits a.instant) :
    Waits l (past ++ [a]) (g.take a) where
  going := h.going
  latest := by
    constructor
    · intro b hb
      rcases List.mem_append.mp hb with hb | hb
      · exact ht.le_instant b hb
      · rw [List.mem_singleton.mp hb]
        exact Nat.le_refl _
    · intro t hall
      exact hall a (List.mem_append_right past List.mem_cons_self)
  timely := by
    intro b hb
    rcases List.mem_append.mp hb with hb | hb
    · exact h.timely b hb
    · rw [List.mem_singleton.mp hb]
      exact hin
  heard := h.heard.record ht.shard_notMem

variable (hanging : Bool) (g : Gathered) {a : Arrival}

theorem await_cons_of_not_admits (hout : ¬l.Admits a.instant) (rest : List Arrival) :
    ∃ moment i, l.interruption = some (moment, i) ∧
      await l hanging g (a :: rest) = some { g with instant := moment, interruption := some i } := by
  cases hi : l.interruption with
  | none => exact absurd (Limits.admits_of_free hi) hout
  | some i =>
    rw [Limits.admits_iff hi, Bool.not_eq_false] at hout
    exact ⟨i.1, i.2, rfl, by simp [await, hi, hout]⟩

theorem await_cons_of_admits (hin : l.Admits a.instant) (rest : List Arrival) :
    await l hanging g (a :: rest) = await l hanging (g.take a) rest := by
  cases hi : l.interruption with
  | none => simp [await, hi, take]
  | some i =>
    rw [Limits.admits_iff hi] at hin
    simp [await, hi, hin, take]

inductive Ends (l : Limits) (hanging : Bool) (arrivals : List Arrival) : Option Gathered → Prop
  | never (hhanging : hanging = true) (hfree : l.interruption = none) :
    Ends l hanging arrivals none
  | complete {g : Gathered} (hall : hanging = false) (hwaits : g.Waits l arrivals) :
    Ends l hanging arrivals (some g)
  | interrupted {g : Gathered} {moment : Nat} {i : Interruption} {past left : List Arrival}
    (hi : l.interruption = some (moment, i)) (hsplit : arrivals = past ++ left)
    (hwaits : g.Waits l past) (hlate : ∀ a ∈ left, ¬l.Admits a.instant)
    (hopen : hanging = true ∨ left ≠ []) :
    Ends l hanging arrivals (some { g with instant := moment, interruption := some i })

theorem ends_await {past rest : List Arrival} {g : Gathered} (ht : Timetable (past ++ rest))
    (hg : g.Waits l past) : Ends l hanging (past ++ rest) (await l hanging g rest) := by
  induction rest generalizing past g with
  | nil =>
    cases hanging with
    | false => exact .complete rfl (by simpa using hg)
    | true =>
      cases hi : l.interruption with
      | none =>
        simp only [await, hi, if_true, Option.map_none]
        exact .never rfl hi
      | some i =>
        simp only [await, hi, if_true, Option.map_some]
        exact .interrupted hi rfl hg (by simp) (.inl rfl)
  | cons a rest ih =>
    by_cases hin : l.Admits a.instant
    · have hassoc : past ++ a :: rest = past ++ [a] ++ rest := by simp
      rw [await_cons_of_admits hanging g hin, hassoc]
      rw [hassoc] at ht
      exact ih ht (hg.take ht.left hin)
    · obtain ⟨moment, i, hi, hend⟩ := await_cons_of_not_admits hanging g hin rest
      rw [hend]
      refine .interrupted hi rfl hg ?_ (.inr (List.cons_ne_nil a rest))
      intro b hb
      rcases List.mem_cons.mp hb with rfl | hb
      · exact hin
      · exact fun hadmits => hin (hadmits.mono (ht.instant_le b hb))

end Await

structure Concludes (tr : Transport) (l : Limits) (shards : OrderedSet ShardNumber)
    (g : Gathered) : Prop where
  least : IsLeast {t | Over tr l shards t} g.instant
  cancelled_iff : g.interruption = some .cancellation ↔ l.cancelAt = some g.instant
  deadline : g.interruption = some .deadline → l.deadline = some g.instant
  complete : g.interruption = none → ∀ s ∈ shards, tr.Ended s g.instant
  heard : g.interruption ≠ some .cancellation → ∀ s r, g.responses.get? s = some r ↔
    s ∈ shards ∧ ∃ t ≤ g.instant, tr s = some (t, .answer r)

variable {tr : Transport} {l : Limits} {shards : OrderedSet ShardNumber} {arrivals : List Arrival}
  (hs : Schedule tr shards.toList arrivals)
include hs

theorem heard_iff {past : List Arrival} {rs : Responses} {instant : Nat} (h : Heard past rs)
    (hpast : ∀ a, a ∈ past ↔ a ∈ arrivals ∧ a.instant ≤ instant) (s : ShardNumber)
    (r : Except ShardError QueryResult) : rs.get? s = some r ↔
      s ∈ shards ∧ ∃ t ≤ instant, tr s = some (t, .answer r) := by
  rw [h s r]
  constructor
  · rintro ⟨a, ha, rfl, hr⟩
    obtain ⟨hmem, hle⟩ := (hpast a).mp ha
    obtain ⟨hshard, htr⟩ := (hs.mem_iff a).mp hmem
    exact ⟨hshard, a.instant, hle, hr ▸ htr⟩
  · rintro ⟨hshard, t, hle, htr⟩
    exact ⟨⟨t, s, .answer r⟩, (hpast _).mpr ⟨(hs.mem_iff _).mpr ⟨hshard, htr⟩, hle⟩, rfl, rfl⟩

theorem over_iff (t : Nat) : Over tr l shards t ↔
    ((∀ s ∈ shards, (tr s).isSome) ∧ ∀ a ∈ arrivals, a.instant ≤ t) ∨
      (∃ d ∈ l.deadline, d ≤ t) ∨ ∃ c ∈ l.cancelAt, c ≤ t :=
  or_congr_left (hs.ended_iff t)

variable {hanging : Bool} (hh : hanging = false ↔ ∀ s ∈ shards, (tr s).isSome)
include hh

omit hs in
theorem hangs_of_ends (h : Ends l hanging arrivals none) :
    l.interruption = none ∧ ∃ s ∈ shards, tr s = none := by
  cases h with
  | never hhanging hfree =>
    refine ⟨hfree, ?_⟩
    have hnot : ¬∀ s ∈ shards, (tr s).isSome := by
      rw [← hh, hhanging]
      simp
    simpa using hnot

theorem concludes_of_waits (hall : hanging = false) (hstart : l.cancelAt ≠ some 0) {g : Gathered}
    (h : g.Waits l arrivals) : g.Concludes tr l shards where
  least := by
    constructor
    · exact (over_iff hs _).mpr (.inl ⟨hh.mp hall, h.latest.1⟩)
    · intro t ht
      rcases (over_iff hs t).mp ht with ⟨-, hle⟩ | ⟨d, hd, hdt⟩ | ⟨c, hc, hct⟩
      · exact h.latest.2 hle
      · exact h.latest.2 fun a ha => ((h.timely a ha).2 d hd).trans hdt
      · exact h.latest.2 fun a ha => ((h.timely a ha).1 c hc).le.trans hct
  cancelled_iff := by
    constructor
    · intro hi
      rw [h.going] at hi
      cases hi
    · intro hc
      -- every arrival comes before the cancellation, so the last of them does
      have hbefore : g.instant ≤ g.instant - 1 := by
        apply h.latest.2
        intro a ha
        have hlt := (h.timely a ha).1 _ hc
        omega
      have hzero : g.instant = 0 := by omega
      exact absurd (hzero ▸ hc) hstart
  deadline := by
    intro hi
    rw [h.going] at hi
    cases hi
  complete := fun _ => (hs.ended_iff _).mpr ⟨hh.mp hall, h.latest.1⟩
  heard := fun _ => heard_iff hs h.heard fun a => ⟨fun ha => ⟨ha, h.latest.1 a ha⟩, And.left⟩

theorem concludes_of_interrupted {g : Gathered} {moment : Nat} {i : Interruption}
    {past left : List Arrival} (hi : l.interruption = some (moment, i))
    (hsplit : arrivals = past ++ left) (h : g.Waits l past)
    (hlate : ∀ a ∈ left, ¬l.Admits a.instant) (hopen : hanging = true ∨ left ≠ []) :
    Concludes tr l shards { g with instant := moment, interruption := some i } where
  least := by
    constructor
    · apply (over_iff hs _).mpr
      rcases Limits.interruption_cases hi with ⟨-, hc, -⟩ | ⟨-, hd, -⟩
      · exact .inr (.inr ⟨moment, hc, Nat.le_refl _⟩)
      · exact .inr (.inl ⟨moment, hd, Nat.le_refl _⟩)
    · intro t ht
      obtain ⟨hdeadline, hcancel⟩ := Limits.moment_le hi
      rcases (over_iff hs t).mp ht with ⟨hsome, hle⟩ | ⟨d, hd, hdt⟩ | ⟨c, hc, hct⟩
      · rcases hopen with hhanging | hne
        · rw [← hh, hhanging] at hsome
          cases hsome
        · obtain ⟨a, ha⟩ := List.exists_mem_of_ne_nil left hne
          have hmem : a ∈ arrivals := hsplit ▸ List.mem_append_right past ha
          exact (Limits.moment_le_of_not_admits (hlate a ha) hi).trans (hle a hmem)
      · exact (hdeadline d hd).trans hdt
      · exact (hcancel c hc).trans hct
  cancelled_iff := by
    rcases Limits.interruption_cases hi with ⟨rfl, hc, -⟩ | ⟨rfl, -, hc⟩
    · exact iff_of_true rfl hc
    · exact iff_of_false (by simp) fun h => Nat.lt_irrefl _ (hc moment h)
  deadline := by
    intro hd
    rcases Limits.interruption_cases hi with ⟨rfl, -⟩ | ⟨-, h, -⟩
    · cases hd
    · exact h
  complete := by
    intro hnone
    cases hnone
  heard := by
    intro hne
    apply heard_iff hs h.heard
    intro a
    have hin : l.Admits a.instant ↔ a.instant ≤ moment := by
      rw [Limits.admits_iff hi]
      cases i with
      | cancellation => exact absurd rfl hne
      | deadline => simp [Interruption.precedes]
    rw [hsplit, List.mem_append, ← hin]
    constructor
    · intro ha
      exact ⟨.inl ha, h.timely a ha⟩
    · rintro ⟨ha | ha, hadmits⟩
      · exact ha
      · exact absurd hadmits (hlate a ha)

omit hs hh

def run (tr : Transport) (l : Limits) (shards : OrderedSet ShardNumber) : Option Gathered :=
  let arrivals := Arrival.inOrder tr shards.toList
  await l (arrivals.length ≠ shards.size) ⟨0, none, .empty⟩ arrivals

theorem ends_run (tr : Transport) (l : Limits) (shards : OrderedSet ShardNumber) :
    ∃ arrivals hanging, Schedule tr shards.toList arrivals ∧
      (hanging = false ↔ ∀ s ∈ shards, (tr s).isSome) ∧
      Ends l hanging arrivals (run tr l shards) := by
  have hd := nodup_toList shards
  have hs := Schedule.inOrder tr hd
  have hends : Ends l _ ([] ++ _) (run tr l shards) := ends_await _ hs.toTimetable waits_nil
  refine ⟨_, _, hs, ?_, hends⟩
  rw [decide_eq_false_iff_not, Ne, not_not]
  exact hs.length_eq_iff hd

theorem hangs_of_run_eq_none (h : run tr l shards = none) :
    l.interruption = none ∧ ∃ s ∈ shards, tr s = none := by
  obtain ⟨arrivals, hanging, hs, hh, hends⟩ := ends_run tr l shards
  rw [h] at hends
  exact hangs_of_ends hh hends

theorem concludes_of_run_eq_some (hstart : l.cancelAt ≠ some 0) {g : Gathered}
    (h : run tr l shards = some g) : g.Concludes tr l shards := by
  obtain ⟨arrivals, hanging, hs, hh, hends⟩ := ends_run tr l shards
  rw [h] at hends
  cases hends with
  | complete hall hwaits => exact concludes_of_waits hs hh hall hstart hwaits
  | interrupted hi hsplit hwaits hlate hopen =>
    exact concludes_of_interrupted hs hh hi hsplit hwaits hlate hopen

end Gathered

end ShardRouting
