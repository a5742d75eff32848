import ShardRouting.Proofs.Gather.Collection

namespace ShardRouting

namespace Transport

variable (tr : Transport) (asked : List ShardNumber) (s : ShardNumber) (t : Nat)

def Answered (r : Except ShardError QueryResult) : Prop :=
  s ∈ asked ∧ ∃ i ≤ t, tr s = some (i, .answer r)

def Died : Prop := s ∈ asked ∧ ∃ i ≤ t, tr s = some (i, .death)

def Runs : Prop := ¬(s ∈ asked ∧ tr.Ended s t)

theorem fate : (∃ r, tr.Answered asked s t r) ∨ tr.Died asked s t ∨ tr.Runs asked s t := by
  by_cases h : s ∈ asked ∧ tr.Ended s t
  · obtain ⟨hs, ⟨i, ending⟩, htr, hi⟩ := h
    cases ending with
    | answer r => exact .inl ⟨r, hs, i, hi, htr⟩
    | death => exact .inr (.inl ⟨hs, i, hi, htr⟩)
  · exact .inr (.inr h)

variable {tr asked s t}

theorem Died.not_runs (h : tr.Died asked s t) : ¬tr.Runs asked s t := by
  obtain ⟨hs, i, hi, htr⟩ := h
  exact not_not.mpr ⟨hs, _, htr, hi⟩

theorem Died.not_answered (h : tr.Died asked s t) (r : Except ShardError QueryResult) :
    ¬tr.Answered asked s t r := by
  rintro ⟨-, j, -, hj⟩
  obtain ⟨-, i, -, hi⟩ := h
  cases hi.symm.trans hj

end Transport

def unreported (s : ShardNumber) : ShardError := .taskFailed s!"task for shard {s} did not report"

inductive Recorded (tr : Transport) (l : Limits) (shards : OrderedSet ShardNumber)
    (asked : List ShardNumber) (t : Nat) (s : ShardNumber) : Except ShardError QueryResult → Prop
  | answer {r : Except ShardError QueryResult} (answered : tr.Answered asked s t r) :
    Recorded tr l shards asked t s r
  | timeout {limit : Span} (limited : l.timeout = some limit) (due : l.deadline = some t)
    (runs : tr.Runs asked s t) : Recorded tr l shards asked t s (.error (.timeout limit))
  | taskFailed (died : tr.Died asked s t) (ended : ∀ s' ∈ shards, ¬tr.Runs asked s' t) :
    Recorded tr l shards asked t s (.error (unreported s))
  | overtaken {limit : Span} (limited : l.timeout = some limit) (due : l.deadline = some t)
    (died : tr.Died asked s t) {s' : ShardNumber} (mem : s' ∈ shards)
    (runs : tr.Runs asked s' t) : Recorded tr l shards asked t s (.error (.timeout limit))

structure Truthful (tr : Transport) (l : Limits) (shards : OrderedSet ShardNumber)
    (asked : List ShardNumber) (t : Nat) (rs : Responses) : Prop where
  timeout : ∀ s ∈ shards, ∀ limit, rs.get? s = some (.error (.timeout limit)) →
    ¬tr.Answered asked s t (.error (.timeout limit)) → l.deadline = some t ∧ tr.Runs asked s t
  taskFailed : ∀ s ∈ shards, tr.Died asked s t → rs.get? s = some (.error (unreported s))

section Recorded

variable {tr : Transport} {l : Limits} {shards : OrderedSet ShardNumber}
  {asked : List ShardNumber} {t : Nat} {s : ShardNumber} {rs : Responses}

theorem Recorded.of_died {r : Except ShardError QueryResult}
    (h : Recorded tr l shards asked t s r) (hdied : tr.Died asked s t) :
    r = .error (unreported s) ∧ (∀ s' ∈ shards, ¬tr.Runs asked s' t) ∨
      (∃ limit, r = .error (.timeout limit)) ∧ ∃ s' ∈ shards, tr.Runs asked s' t := by
  cases h with
  | answer answered => exact absurd answered (hdied.not_answered _)
  | timeout limited due runs => exact absurd runs hdied.not_runs
  | taskFailed died ended => exact .inl ⟨rfl, ended⟩
  | overtaken limited due died mem runs => exact .inr ⟨⟨_, rfl⟩, _, mem, runs⟩

theorem truthful_iff_of_recorded
    (h : ∀ s ∈ shards, ∃ r, rs.get? s = some r ∧ Recorded tr l shards asked t s r) :
    Truthful tr l shards asked t rs ↔
      ∀ s ∈ shards, tr.Died asked s t → ∀ s' ∈ shards, ¬tr.Runs asked s' t := by
  constructor
  · intro htruthful s hs hdied
    obtain ⟨r, hr, hrecorded⟩ := h s hs
    rcases hrecorded.of_died hdied with ⟨-, hover⟩ | ⟨⟨limit, rfl⟩, -⟩
    · exact hover
    · have hfailed := htruthful.taskFailed s hs hdied
      rw [hr, unreported] at hfailed
      cases hfailed
  · intro hall
    constructor
    · intro s hs limit hlimit hown
      obtain ⟨r, hr, hrecorded⟩ := h s hs
      obtain rfl := Option.some.inj (hr.symm.trans hlimit)
      cases hrecorded with
      | answer answered => exact absurd answered hown
      | timeout _ due runs => exact ⟨due, runs⟩
      | overtaken _ _ died mem runs => exact absurd runs (hall s hs died _ mem)
    · intro s hs hdied
      obtain ⟨r, hr, hrecorded⟩ := h s hs
      rcases hrecorded.of_died hdied with ⟨rfl, -⟩ | ⟨-, s', hs', hruns⟩
      · exact hr
      · exact absurd hruns (hall s hs hdied s' hs')

end Recorded

namespace Gathered

variable {tr : Transport} {l : Limits} {shards : OrderedSet ShardNumber} {g : Gathered}

theorem exists_running_of_deadline (h : run tr l shards = some g)
    (hi : g.interruption = some .deadline) : ∃ s ∈ shards, ¬tr.Ended s g.instant := by
  obtain ⟨arrivals, hanging, hs, hh, hends⟩ := ends_run tr l shards
  rw [h] at hends
  cases hends with
  | complete hall hwaits =>
    rw [hwaits.going] at hi
    cases hi
  | @interrupted g moment i past left hmoment hsplit hwaits hlate hopen =>
    obtain rfl : i = .deadline := Option.some.inj hi
    rcases hopen with hhanging | hne
    · obtain ⟨s, hshard, hnone⟩ : ∃ s ∈ shards, tr s = none := by
        rw [hhanging] at hh
        simpa using hh
      refine ⟨s, hshard, ?_⟩
      rintro ⟨e, he, -⟩
      rw [hnone] at he
      cases he
    · obtain ⟨a, ha⟩ := List.exists_mem_of_ne_nil left hne
      obtain ⟨hshard, htr⟩ := (hs.mem_iff a).mp (hsplit ▸ List.mem_append_right past ha)
      have hlater : moment < a.instant := by
        have hnot := hlate a ha
        rw [Limits.admits_iff hmoment, Bool.not_eq_false] at hnot
        exact of_decide_eq_true hnot
      refine ⟨a.shard, hshard, ?_⟩
      rintro ⟨e, he, hle⟩
      obtain rfl := Option.some.inj (htr.symm.trans he)
      exact Nat.not_le_of_lt hlater hle

theorem get?_complete_cases {t : Nat} {rs : Responses} (e : ShardNumber → ShardError)
    (heard : ∀ s r, rs.get? s = some r ↔ s ∈ shards ∧ ∃ i ≤ t, tr s = some (i, .answer r))
    {s : ShardNumber} (hs : s ∈ shards) :
    (∃ r, tr.Answered shards.toList s t r ∧
        (complete rs shards.toList e).get? s = some r) ∨
      (tr.Died shards.toList s t ∨ tr.Runs shards.toList s t) ∧
        (complete rs shards.toList e).get? s = some (.error (e s)) := by
  rcases tr.fate shards.toList s t with ⟨r, hr⟩ | hrest
  · refine .inl ⟨r, hr, ?_⟩
    rw [get?_complete, (heard s r).mpr hr, Option.some_or]
  · refine .inr ⟨hrest, get?_complete_of_unheard hs ?_ e⟩
    intro r hr
    have hanswered : tr.Answered shards.toList s t r := (heard s r).mp hr
    rcases hrest with hdied | hruns
    · exact hdied.not_answered r hanswered
    · obtain ⟨hmem, i, hi, htr⟩ := hanswered
      exact hruns ⟨hmem, _, htr, hi⟩

theorem recorded_of_run (hstart : l.cancelAt ≠ some 0) (h : run tr l shards = some g)
    {rs : Responses} (hrs : g.outcome (l.timeout.getD ⟨0, 0⟩) shards.toList = .ok rs)
    {s : ShardNumber} (hs : s ∈ shards) :
    ∃ r, rs.get? s = some r ∧ Recorded tr l shards shards.toList g.instant s r := by
  have hg := concludes_of_run_eq_some hstart h
  rw [outcome] at hrs
  cases hi : g.interruption with
  | none =>
    rw [hi] at hrs
    cases hrs
    have hover : ∀ s' ∈ shards, ¬tr.Runs shards.toList s' g.instant :=
      fun s' hs' hruns => hruns ⟨hs', hg.complete hi s' hs'⟩
    rcases get?_complete_cases unreported (hg.heard (by simp [hi])) hs with
      ⟨r, hanswered, hr⟩ | ⟨hrest, hr⟩
    · exact ⟨r, hr, .answer hanswered⟩
    · exact ⟨_, hr, .taskFailed (hrest.resolve_right (hover s hs)) hover⟩
  | some i =>
    cases i with
    | cancellation =>
      rw [hi] at hrs
      cases hrs
    | deadline =>
      rw [hi] at hrs
      cases hrs
      have hdue := hg.deadline hi
      obtain ⟨limit, hlimit, -⟩ := Option.map_eq_some_iff.mp hdue
      obtain ⟨s', hs', hnot⟩ := exists_running_of_deadline h hi
      have hruns' : tr.Runs shards.toList s' g.instant := fun hended => hnot hended.2
      rw [hlimit, Option.getD_some]
      rcases get?_complete_cases (fun _ => .timeout limit) (hg.heard (by simp [hi])) hs with
        ⟨r, hanswered, hr⟩ | ⟨hdied | hruns, hr⟩
      · exact ⟨r, hr, .answer hanswered⟩
      · exact ⟨_, hr, .overtaken hlimit hdue hdied hs' hruns'⟩
      · exact ⟨_, hr, .timeout hlimit hdue hruns⟩

end Gathered

section Collect

variable {tr : Transport} {l : Limits} {shards : OrderedSet ShardNumber} {t : Nat} {rs : Responses}

theorem recorded_of_no_time (h : l.leavesTime = false) {s : ShardNumber} (hs : s ∈ shards) :
    ∃ r, (Gathered.complete .empty shards.toList fun _ =>
        .timeout (l.timeout.getD ⟨0, 0⟩)).get? s = some r ∧ Recorded tr l shards [] 0 s r := by
  have hdue : l.deadline = some 0 := by simpa [Limits.leavesTime] using h
  obtain ⟨limit, hlimit, -⟩ := Option.map_eq_some_iff.mp hdue
  have hruns : tr.Runs [] s 0 := fun hended => List.not_mem_nil hended.1
  rw [hlimit, Option.getD_some]
  exact ⟨_, Gathered.get?_complete_of_unheard hs (by rintro r ⟨⟩) _, .timeout hlimit hdue hruns⟩

theorem recorded_of_collect (h : (collect tr l shards).result = some (t, .ok rs)) :
    rs.keys = shards ∧ ∀ s ∈ shards, ∃ r, rs.get? s = some r ∧
      Recorded tr l shards (collect tr l shards).asked t s r := by
  have hcourse := course_collect tr l shards
  rw [h] at hcourse
  generalize (collect tr l shards).asked = asked at hcourse ⊢
  cases hcourse with
  | noTime hne htime =>
    exact ⟨Gathered.keys_complete (by rintro s r ⟨⟩) _, fun s hs => recorded_of_no_time htime hs⟩
  | asked hstart hrun hcollected =>
    cases hcollected with
    | answered hleast hc hrs =>
      refine ⟨hrs.keys, ?_⟩
      obtain ⟨g, hg, heq⟩ := Option.map_eq_some_iff.mp hrun.symm
      obtain ⟨rfl, houtcome⟩ := Prod.mk.inj heq
      exact fun s hs =>
        Gathered.recorded_of_run hstart hg (Attempt.ofExcept_eq_ok.mp houtcome) hs

/-- Every shard of a collection is on record with its answer, as timed out or as failed. The record
is truthful unless a task had died when the deadline came for another. -/
theorem records_truthful_iff (h : (collect tr l shards).result = some (t, .ok rs)) :
    let asked := (collect tr l shards).asked
    rs.keys = shards ∧
      (∀ s ∈ shards, ∃ r, rs.get? s = some r ∧ Recorded tr l shards asked t s r) ∧
      (Truthful tr l shards asked t rs ↔
        ∀ s ∈ shards, tr.Died asked s t → ∀ s' ∈ shards, ¬tr.Runs asked s' t) := by
  intro asked
  obtain ⟨hkeys, hrecorded⟩ := recorded_of_collect h
  exact ⟨hkeys, hrecorded, truthful_iff_of_recorded hrecorded⟩

end Collect

def partlyDying : Transport
  | 0 => some (0, .death)
  | 2 => some (20, .answer (.error (.remote "index corrupted")))
  | _ => none

def shortly : Limits where
  timeout := some ⟨0, 50000000⟩

theorem records_truthful_iff_three :
    let shards : OrderedSet ShardNumber := .ofList [0, 1, 2]
    let rs : Responses := .ofList [(0, .error (.timeout ⟨0, 50000000⟩)),
      (1, .error (.timeout ⟨0, 50000000⟩)), (2, .error (.remote "index corrupted"))]
    let asked := (collect partlyDying shortly shards).asked
    (collect partlyDying shortly shards).result = some (50, .ok rs) ∧
      rs.keys = shards ∧
      (∀ s ∈ shards, ∃ r, rs.get? s = some r ∧
        Recorded partlyDying shortly shards asked 50 s r) ∧
      (Truthful partlyDying shortly shards asked 50 rs ↔
        ∀ s ∈ shards, partlyDying.Died asked s 50 →
          ∀ s' ∈ shards, ¬partlyDying.Runs asked s' 50) := by
  intro shards rs asked
  have harrivals : Arrival.inOrder partlyDying shards.toList =
      [⟨0, 0, .death⟩, ⟨20, 2, .answer (.error (.remote "index corrupted"))⟩] :=
    List.mergeSort_of_pairwise (by decide)
  have h : (collect partlyDying shortly shards).result = some (50, .ok rs) := by
    rw [result_collect partlyDying (by decide) (by decide) (by decide) rfl, Gathered.run, harrivals]
    rfl
  exact ⟨h, records_truthful_iff h⟩

theorem dead_task_timed_out :
    let shards : OrderedSet ShardNumber := .ofList [0, 1]
    let rs : Responses :=
      .ofList [(0, .error (.timeout ⟨0, 50000000⟩)), (1, .error (.timeout ⟨0, 50000000⟩))]
    let asked := (collect partlyDying shortly shards).asked
    (collect partlyDying shortly shards).result = some (50, .ok rs) ∧
      partlyDying.Died asked 0 0 ∧ ¬Truthful partlyDying shortly shards asked 50 rs := by
  intro shards rs asked
  have harrivals : Arrival.inOrder partlyDying shards.toList = [⟨0, 0, .death⟩] :=
    List.mergeSort_singleton _
  have h : (collect partlyDying shortly shards).result = some (50, .ok rs) := by
    rw [result_collect partlyDying (by decide) (by decide) (by decide) rfl, Gathered.run, harrivals]
    rfl
  have hasked : 0 ∈ asked := by decide
  refine ⟨h, ⟨hasked, 0, Nat.le_refl 0, rfl⟩, ?_⟩
  intro htruthful
  have hfailed := htruthful.taskFailed 0 (by decide) ⟨hasked, 0, Nat.zero_le 50, rfl⟩
  have htimeout : rs.get? 0 = some (.error (.timeout ⟨0, 50000000⟩)) := rfl
  rw [htimeout, unreported] at hfailed
  cases hfailed

end ShardRouting
