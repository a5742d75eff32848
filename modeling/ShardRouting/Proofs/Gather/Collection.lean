import ShardRouting.Proofs.Gather.Await

namespace ShardRouting

namespace Call

variable {α β : Type} (c : Call α)

def result : Option (Nat × α) := c.ending.map fun e => (e.1, e.2.value)

theorem result_precededBy (t : Tally) : (c.precededBy t).result = c.result := rfl

theorem result_andThen (f : α → Metered β) :
    (c.andThen f).result = c.result.map fun e => (e.1, (f e.2).value) := by
  simp [result, andThen, Function.comp_def]

end Call

theorem Limits.leavesTime_of_pos {l : Limits} (h : ∀ limit ∈ l.timeout, 0 < limit.totalNanos) :
    l.leavesTime := by
  simp only [leavesTime, deadline, ne_eq, decide_eq_true_eq, Option.map_eq_some_iff, not_exists,
    not_and]
  intro limit hlimit hzero
  have hpos := h limit hlimit
  rw [Span.milliseconds] at hzero
  omega

/-- What the shards are taken to have answered by `t`. -/
structure Answers (tr : Transport) (l : Limits) (shards : OrderedSet ShardNumber) (t : Nat)
    (rs : Responses) : Prop where
  keys : rs.keys = shards
  own : ∀ s ∈ shards, ∀ i ≤ t, ∀ r, tr s = some (i, .answer r) → rs.get? s = some r
  died : ∀ s ∈ shards, ∀ i ≤ t, tr s = some (i, .death) → ∃ e, rs.get? s = some (.error e)
  timedOut : ∀ s ∈ shards, ¬tr.Ended s t →
    ∃ limit ∈ l.timeout, rs.get? s = some (.error (.timeout limit))

namespace Gathered

variable {tr : Transport} {l : Limits} {shards : OrderedSet ShardNumber}

theorem get?_complete (rs : Responses) (ss : List ShardNumber) (e : ShardNumber → ShardError)
    (s : ShardNumber) : (complete rs ss e).get? s =
      (rs.get? s).or (if s ∈ ss then some (.error (e s)) else none) := by
  induction ss generalizing rs with
  | nil => simp [complete]
  | cons x rest ih =>
    have hstep : complete rs (x :: rest) e = complete (rs.insertNew x (.error (e x))) rest e := rfl
    rw [hstep, ih, OrderedMap.get?_insertNew, Option.or_assoc]
    by_cases hx : s = x
    · simp [hx]
    · simp [hx]

theorem keys_complete {rs : Responses} (h : ∀ s r, rs.get? s = some r → s ∈ shards)
    (e : ShardNumber → ShardError) : (complete rs shards.toList e).keys = shards := by
  apply OrderedSet.ext_mem
  intro s
  rw [OrderedMap.mem_keys_iff, get?_complete]
  by_cases hs : s ∈ shards
  · cases hr : rs.get? s <;> simp [OrderedSet.mem_toList, hs]
  · have hnone : rs.get? s = none := Option.eq_none_iff_forall_ne_some.mpr fun r hr => hs (h s r hr)
    simp [OrderedSet.mem_toList, hs, hnone]

theorem get?_complete_of_unheard {rs : Responses} {s : ShardNumber} (hs : s ∈ shards)
    (hr : ∀ r, rs.get? s ≠ some r) (e : ShardNumber → ShardError) :
    (complete rs shards.toList e).get? s = some (.error (e s)) := by
  rw [get?_complete, Option.eq_none_iff_forall_ne_some.mpr hr, Option.none_or]
  exact if_pos hs

theorem answers_complete {t : Nat} {rs : Responses} (e : ShardNumber → ShardError)
    (heard : ∀ s r, rs.get? s = some r ↔ s ∈ shards ∧ ∃ i ≤ t, tr s = some (i, .answer r))
    (late : ∀ s ∈ shards, ¬tr.Ended s t → ∃ limit ∈ l.timeout, e s = .timeout limit) :
    Answers tr l shards t (complete rs shards.toList e) where
  keys := keys_complete (fun s r h => ((heard s r).mp h).1) e
  own := by
    intro s hs i hi r htr
    rw [get?_complete, (heard s r).mpr ⟨hs, i, hi, htr⟩, Option.some_or]
  died := by
    intro s hs i hi htr
    refine ⟨e s, get?_complete_of_unheard hs ?_ e⟩
    intro r hr
    obtain ⟨-, j, -, hj⟩ := (heard s r).mp hr
    cases htr.symm.trans hj
  timedOut := by
    intro s hs hnot
    obtain ⟨limit, hlimit, he⟩ := late s hs hnot
    refine ⟨limit, hlimit, he ▸ get?_complete_of_unheard hs ?_ e⟩
    intro r hr
    obtain ⟨-, j, hj, htr⟩ := (heard s r).mp hr
    exact hnot ⟨_, htr, hj⟩

variable {g : Gathered}

theorem Concludes.outcome_of_cancelled (h : g.Concludes tr l shards)
    (hc : l.cancelAt = some g.instant) (limit : Span) :
    g.outcome limit shards.toList = .error .cancelled := by
  rw [outcome, h.cancelled_iff.mpr hc]

theorem Concludes.exists_answers (h : g.Concludes tr l shards)
    (hc : l.cancelAt ≠ some g.instant) :
    ∃ rs, g.outcome (l.timeout.getD ⟨0, 0⟩) shards.toList = .ok rs ∧
      Answers tr l shards g.instant rs := by
  have hne : g.interruption ≠ some .cancellation := fun hi => hc (h.cancelled_iff.mp hi)
  rw [outcome]
  cases hi : g.interruption with
  | none =>
    refine ⟨_, rfl, answers_complete _ (h.heard hne) ?_⟩
    intro s hs hnot
    exact absurd (h.complete hi s hs) hnot
  | some i =>
    cases i with
    | cancellation => exact absurd hi hne
    | deadline =>
      refine ⟨_, rfl, answers_complete _ (h.heard hne) ?_⟩
      intro s hs hnot
      obtain ⟨limit, hlimit, -⟩ := Option.map_eq_some_iff.mp (h.deadline hi)
      exact ⟨limit, hlimit, by rw [hlimit, Option.getD_some]⟩

end Gathered

variable {l : Limits} {shards : OrderedSet ShardNumber}

inductive Collected (tr : Transport) (l : Limits) (shards : OrderedSet ShardNumber) :
    Option (Nat × Attempt DispatchError Responses) → Prop
  | never (hfree : l.interruption = none) (hhangs : ∃ s ∈ shards, tr s = none) :
    Collected tr l shards none
  | cancelled {t : Nat} (hleast : IsLeast {t | Over tr l shards t} t)
    (hc : l.cancelAt = some t) : Collected tr l shards (some (t, .error (.refused .cancelled)))
  | answered {t : Nat} {rs : Responses} (hleast : IsLeast {t | Over tr l shards t} t)
    (hc : l.cancelAt ≠ some t) (hrs : Answers tr l shards t rs) :
    Collected tr l shards (some (t, .ok rs))

theorem Collected.eq_none_iff {tr : Transport} {o : Option (Nat × Attempt DispatchError Responses)}
    (h : Collected tr l shards o) : o = none ↔ ∀ t, ¬Over tr l shards t := by
  cases h with
  | never hfree hhangs =>
    obtain ⟨s, hs, hnone⟩ := hhangs
    exact iff_of_true rfl (not_over hfree hs hnone)
  | cancelled hleast hc => exact iff_of_false (by simp) fun hopen => hopen _ hleast.1
  | answered hleast hc hrs => exact iff_of_false (by simp) fun hopen => hopen _ hleast.1

theorem Collected.of_isLeast {tr : Transport} {o : Option (Nat × Attempt DispatchError Responses)}
    (h : Collected tr l shards o) {t : Nat} (ht : IsLeast {t | Over tr l shards t} t) :
    l.cancelAt = some t ∧ o = some (t, .error (.refused .cancelled)) ∨
      l.cancelAt ≠ some t ∧ ∃ rs, o = some (t, .ok rs) ∧ Answers tr l shards t rs := by
  cases h with
  | never hfree hhangs =>
    obtain ⟨s, hs, hnone⟩ := hhangs
    exact absurd ht.1 (not_over hfree hs hnone t)
  | cancelled hleast hc =>
    obtain rfl := hleast.unique ht
    exact .inl ⟨hc, rfl⟩
  | answered hleast hc hrs =>
    obtain rfl := hleast.unique ht
    exact .inr ⟨hc, _, rfl, hrs⟩

section Asked

variable (tr : Transport) (hne : shards.toList ≠ []) (hstart : l.cancelAt ≠ some 0)
  (hclock : l.representable) (htime : l.leavesTime)
include hne hstart hclock htime

theorem asked_collect : (collect tr l shards).asked = shards.toList := by
  simp [collect, hne, hstart, hclock, htime]

theorem result_collect : (collect tr l shards).result = (Gathered.run tr l shards).map fun g =>
    (g.instant, .ofExcept (g.outcome (l.timeout.getD ⟨0, 0⟩) shards.toList)) := by
  simp [collect, Call.result, hne, hstart, hclock, htime, Gathered.run, Metered.count,
    Function.comp_def]

theorem collected : Collected tr l shards (collect tr l shards).result := by
  rw [result_collect tr hne hstart hclock htime]
  cases hrun : Gathered.run tr l shards with
  | none =>
    obtain ⟨hfree, hhangs⟩ := Gathered.hangs_of_run_eq_none hrun
    exact .never hfree hhangs
  | some g =>
    have h := Gathered.concludes_of_run_eq_some hstart hrun
    rw [Option.map_some]
    by_cases hc : l.cancelAt = some g.instant
    · rw [h.outcome_of_cancelled hc]
      exact .cancelled h.least hc
    · obtain ⟨rs, hrs, hanswers⟩ := h.exists_answers hc
      rw [hrs]
      exact .answered h.least hc hanswers

end Asked

section Unasked

variable (tr : Transport)

theorem collect_of_empty (l : Limits) (h : shards.toList = []) :
    collect tr l shards = .immediate (pure (.error (.refused .noTargets))) := by
  simp [collect, h]

theorem collect_of_cancelled (hne : shards.toList ≠ []) (h : l.cancelAt = some 0) :
    (collect tr l shards).asked = [] ∧
      (collect tr l shards).result = some (0, .error (.refused .cancelled)) := by
  simp [collect, Call.result, Call.immediate, Metered.count, hne, h]

theorem collect_of_not_representable (hne : shards.toList ≠ []) (hstart : l.cancelAt ≠ some 0)
    (h : l.representable = false) : (collect tr l shards).asked = [] ∧
      (collect tr l shards).result = some (0, .error (.trapped .momentOverflow)) := by
  simp [collect, Call.result, Call.immediate, Call.precededBy, hne, hstart, h]

theorem collect_of_no_time (hne : shards.toList ≠ []) (hstart : l.cancelAt ≠ some 0)
    (hclock : l.representable) (h : l.leavesTime = false) : (collect tr l shards).asked = [] ∧
      (collect tr l shards).result =
        some (0, .ok (Gathered.complete .empty shards.toList fun _ =>
          .timeout (l.timeout.getD ⟨0, 0⟩))) := by
  have hdeadline : l.deadline = some 0 := by simpa [Limits.leavesTime] using h
  have hfirst : l.interruption = some (0, .deadline) := by
    rw [Limits.interruption, hdeadline]
    cases hc : l.cancelAt with
    | none => rfl
    | some c =>
      have hpos : c ≠ 0 := fun hzero => hstart (hzero ▸ hc)
      simp [hpos]
  have hsize : shards.size ≠ 0 := by simpa [OrderedSet.size] using hne
  simp [collect, Call.result, hne, hstart, hclock, h, Arrival.inOrder, Gathered.await, hfirst,
    Gathered.outcome, Attempt.ofExcept, Metered.count, Ne.symm hsize]

end Unasked

/-- All the ways that a collection can go, by what it has asked and how it ends. -/
inductive Course (tr : Transport) (l : Limits) (shards : OrderedSet ShardNumber) :
    List ShardNumber → Option (Nat × Attempt DispatchError Responses) → Prop
  | noTargets (hempty : shards.toList = []) :
    Course tr l shards [] (some (0, .error (.refused .noTargets)))
  | cancelled (hne : shards.toList ≠ []) (hstart : l.cancelAt = some 0) :
    Course tr l shards [] (some (0, .error (.refused .cancelled)))
  | trapped (hne : shards.toList ≠ []) (hstart : l.cancelAt ≠ some 0)
    (hclock : l.representable = false) :
    Course tr l shards [] (some (0, .error (.trapped .momentOverflow)))
  | noTime (hne : shards.toList ≠ []) (htime : l.leavesTime = false) :
    Course tr l shards [] (some (0, .ok (Gathered.complete .empty shards.toList fun _ =>
      .timeout (l.timeout.getD ⟨0, 0⟩))))
  | asked {o : Option (Nat × Attempt DispatchError Responses)} (hstart : l.cancelAt ≠ some 0)
    (hrun : o = (Gathered.run tr l shards).map fun g =>
      (g.instant, .ofExcept (g.outcome (l.timeout.getD ⟨0, 0⟩) shards.toList)))
    (hcollected : Collected tr l shards o) : Course tr l shards shards.toList o

theorem course_collect (tr : Transport) (l : Limits) (shards : OrderedSet ShardNumber) :
    Course tr l shards (collect tr l shards).asked (collect tr l shards).result := by
  by_cases hne : shards.toList = []
  · rw [collect_of_empty tr l hne]
    exact .noTargets hne
  by_cases hstart : l.cancelAt = some 0
  · obtain ⟨hasked, hresult⟩ := collect_of_cancelled tr hne hstart
    rw [hasked, hresult]
    exact .cancelled hne hstart
  cases hclock : l.representable with
  | false =>
    obtain ⟨hasked, hresult⟩ := collect_of_not_representable tr hne hstart hclock
    rw [hasked, hresult]
    exact .trapped hne hstart hclock
  | true =>
    cases htime : l.leavesTime with
    | false =>
      obtain ⟨hasked, hresult⟩ := collect_of_no_time tr hne hstart hclock htime
      rw [hasked, hresult]
      exact .noTime hne htime
    | true =>
      rw [asked_collect tr hne hstart hclock htime]
      exact .asked hstart (result_collect tr hne hstart hclock htime)
        (collected tr hne hstart hclock htime)

section Answered

variable {tr : Transport} {t : Nat} {rs : Responses}

theorem Answers.own_of_successes (h : Answers tr l shards t rs)
    (hok : ∀ s e, rs.get? s ≠ some (.error e)) {s : ShardNumber} (hs : s ∈ shards) :
    ∃ i ≤ t, ∃ q, tr s = some (i, .answer (.ok q)) ∧ rs.get? s = some (.ok q) := by
  by_cases hended : tr.Ended s t
  · obtain ⟨⟨i, ending⟩, htr, hi⟩ := hended
    cases ending with
    | death =>
      obtain ⟨e, he⟩ := h.died s hs i hi htr
      exact absurd he (hok s e)
    | answer r =>
      have hget := h.own s hs i hi r htr
      cases r with
      | error e => exact absurd hget (hok s e)
      | ok q => exact ⟨i, hi, q, htr, hget⟩
  · obtain ⟨limit, -, he⟩ := h.timedOut s hs hended
    exact absurd he (hok s _)

theorem collect_ok (h : (collect tr l shards).result = some (t, .ok rs)) :
    Answers tr l shards t rs ∨ ∃ s e, rs.get? s = some (.error e) := by
  have hcourse := course_collect tr l shards
  rw [h] at hcourse
  generalize (collect tr l shards).asked = asked at hcourse
  cases hcourse with
  | noTime hne htime =>
    obtain ⟨s, hs⟩ := List.exists_mem_of_ne_nil _ hne
    exact .inr ⟨s, _, Gathered.get?_complete_of_unheard hs (by rintro r ⟨⟩) _⟩
  | asked hstart hrun hcollected =>
    cases hcollected with
    | answered hleast hc hrs => exact .inl hrs

structure AnswersInTime (tr : Transport) (l : Limits) (shards : OrderedSet ShardNumber)
    (a : ShardNumber → Except ShardError QueryResult) : Prop where
  representable : l.representable
  leavesTime : l.leavesTime
  admitted : ∀ s ∈ shards, ∃ i, l.Admits i ∧ tr s = some (i, .answer (a s))

variable {a : ShardNumber → Except ShardError QueryResult}

theorem AnswersInTime.ended (h : AnswersInTime tr l shards a) (hle : ∀ i, l.Admits i → i ≤ t) :
    ∀ s ∈ shards, tr.Ended s t := by
  intro s hs
  obtain ⟨i, hi, htr⟩ := h.admitted s hs
  exact ⟨_, htr, hle i hi⟩

theorem AnswersInTime.ended_of_over (h : AnswersInTime tr l shards a) (ht : Over tr l shards t) :
    ∀ s ∈ shards, tr.Ended s t := by
  rcases ht with hall | ⟨d, hd, hdt⟩ | ⟨c, hc, hct⟩
  · exact hall
  · exact h.ended fun i hi => (hi.2 d hd).trans hdt
  · exact h.ended fun i hi => (hi.1 c hc).le.trans hct

theorem AnswersInTime.cancelAt_pos (h : AnswersInTime tr l shards a) (hne : shards.toList ≠ []) :
    ∀ c ∈ l.cancelAt, 0 < c := by
  intro c hc
  obtain ⟨s, hs⟩ := List.exists_mem_of_ne_nil _ hne
  obtain ⟨i, hi, -⟩ := h.admitted s hs
  exact Nat.zero_lt_of_lt (hi.1 c hc)

theorem AnswersInTime.cancelAt_ne (h : AnswersInTime tr l shards a) (hne : shards.toList ≠ [])
    (hleast : IsLeast {t | Over tr l shards t} t) : l.cancelAt ≠ some t := by
  intro hc
  have hover : Over tr l shards (t - 1) :=
    .inl (h.ended fun i hi => Nat.le_sub_one_of_lt (hi.1 t hc))
  have hle : t ≤ t - 1 := hleast.2 hover
  have hpos := h.cancelAt_pos hne t hc
  omega

theorem AnswersInTime.get?_eq (h : AnswersInTime tr l shards a) (hrs : Answers tr l shards t rs)
    (ht : Over tr l shards t) (s : ShardNumber) :
    rs.get? s = if s ∈ shards then some (a s) else none := by
  by_cases hs : s ∈ shards
  · obtain ⟨i, -, htr⟩ := h.admitted s hs
    obtain ⟨e, he, hle⟩ := h.ended_of_over ht s hs
    obtain rfl := Option.some.inj (htr.symm.trans he)
    rw [if_pos hs, hrs.own s hs i hle _ htr]
  · rw [if_neg hs]
    apply Option.eq_none_iff_forall_ne_some.mpr
    intro r hr
    exact hs (hrs.keys ▸ OrderedMap.mem_keys_iff.mpr ⟨r, hr⟩)

theorem AnswersInTime.collect (h : AnswersInTime tr l shards a) (hne : shards.toList ≠ []) :
    ∃ t rs, (collect tr l shards).result = some (t, .ok rs) ∧
      ∀ s, rs.get? s = if s ∈ shards then some (a s) else none := by
  have hstart : l.cancelAt ≠ some 0 := fun hc => Nat.lt_irrefl 0 (h.cancelAt_pos hne 0 hc)
  have hcollected := collected tr hne hstart h.representable h.leavesTime
  generalize (ShardRouting.collect tr l shards).result = o at *
  cases hcollected with
  | never hfree hhangs =>
    obtain ⟨s, hs, hnone⟩ := hhangs
    obtain ⟨i, -, htr⟩ := h.admitted s hs
    cases hnone.symm.trans htr
  | cancelled hleast hc => exact absurd hc (h.cancelAt_ne hne hleast)
  | answered hleast hc hrs => exact ⟨_, _, rfl, h.get?_eq hrs hleast.1⟩

end Answered

end ShardRouting
