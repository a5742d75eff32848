import ShardRouting.Proofs.Gather.Collection

namespace ShardRouting

namespace Responses

variable {rs : Responses}

theorem get?_successes (s : ShardNumber) (q : QueryResult) :
    rs.successes.get? s = some q ↔ rs.get? s = some (.ok q) := by
  rw [successes, OrderedMap.get?_filterMap]
  rcases rs.get? s with _ | e | q'
  · simp
  · simp [Except.toOption]
  · simp [Except.toOption]

theorem get?_failures (s : ShardNumber) (e : ShardError) :
    rs.failures.get? s = some e ↔ rs.get? s = some (.error e) := by
  rw [failures, OrderedMap.get?_filterMap]
  rcases rs.get? s with _ | e' | q
  · simp
  · simp
  · simp

theorem keys_successes (h : ∀ s e, rs.get? s ≠ some (.error e)) : rs.successes.keys = rs.keys := by
  apply OrderedSet.ext_mem
  intro s
  rw [OrderedMap.mem_keys_iff, OrderedMap.mem_keys_iff]
  constructor
  · rintro ⟨q, hq⟩
    exact ⟨_, (get?_successes s q).mp hq⟩
  · rintro ⟨r, hr⟩
    cases r with
    | error e => exact absurd hr (h s e)
    | ok q => exact ⟨q, (get?_successes s q).mpr hr⟩

theorem settle_of_successes (h : ∀ s e, rs.get? s ≠ some (.error e)) :
    rs.settle.value = .ok rs.successes := by
  have hempty : rs.failures.entries = [] := by
    apply List.eq_nil_iff_forall_not_mem.mpr
    rintro ⟨s, e⟩ hmem
    exact h s e ((get?_failures s e).mp (OrderedMap.get?_eq_some_iff.mpr hmem))
  simp [settle, hempty]

theorem settle_of_failure {s : ShardNumber} {e : ShardError} (h : rs.get? s = some (.error e)) :
    rs.settle.value = .error (.shardsFailed rs.size rs.failures) := by
  have hmem := OrderedMap.get?_eq_some_iff.mp ((get?_failures s e).mpr h)
  have hne : rs.failures.entries ≠ [] := List.ne_nil_of_mem hmem
  simp [settle, hne, Metered.count]

structure Settles (total : Nat) (rs : Responses)
    (o : Except DispatchError (OrderedMap ShardNumber QueryResult)) : Prop where
  succeeds : (∀ s e, rs.get? s ≠ some (.error e)) → ∃ results, o = .ok results ∧
    ∀ s q, results.get? s = some q ↔ rs.get? s = some (.ok q)
  fails : (∃ s e, rs.get? s = some (.error e)) → ∃ failures,
    o = .error (.shardsFailed total failures) ∧
    ∀ s e, failures.get? s = some e ↔ rs.get? s = some (.error e)

theorem settles (rs : Responses) : Settles rs.size rs rs.settle.value where
  succeeds h := ⟨rs.successes, settle_of_successes h, get?_successes⟩
  fails h := by
    obtain ⟨s, e, hse⟩ := h
    exact ⟨rs.failures, settle_of_failure hse, get?_failures⟩

theorem settle_eq_ok {answers : OrderedMap ShardNumber QueryResult}
    (h : rs.settle.value = .ok answers) :
    (∀ s e, rs.get? s ≠ some (.error e)) ∧ answers = rs.successes := by
  have hok : ∀ s e, rs.get? s ≠ some (.error e) := by
    intro s e he
    rw [settle_of_failure he] at h
    cases h
  rw [settle_of_successes hok] at h
  exact ⟨hok, (Except.ok.inj h).symm⟩

end Responses

variable {tr : Transport} {l : Limits} {shards : OrderedSet ShardNumber} {t : Nat}

theorem Answers.size {rs : Responses} (h : Answers tr l shards t rs) : rs.size = shards.size := by
  rw [← h.keys, OrderedSet.size, OrderedMap.keys, List.length_map, OrderedMap.size]

theorem result_dispatch (tr : Transport) (l : Limits) (shards : OrderedSet ShardNumber) :
    (dispatch tr l shards).result = (collect tr l shards).result.map fun e => (e.1,
      match e.2 with
      | .error f => .error f
      | .ok rs => .ofExcept rs.settle.value) := by
  rw [dispatch, Call.result_andThen]
  congr 1
  funext e
  cases e.2 <;> rfl

theorem dispatch_of_empty (tr : Transport) (l : Limits) (h : shards.toList = []) :
    (dispatch tr l shards).asked = [] ∧
      (dispatch tr l shards).result = some (0, .error (.refused .noTargets)) := by
  rw [result_dispatch, dispatch, collect_of_empty tr l h]
  exact ⟨rfl, rfl⟩

theorem dispatch_ok {answers : OrderedMap ShardNumber QueryResult}
    (h : (dispatch tr l shards).result = some (t, .ok answers)) :
    answers.keys = shards ∧ ∀ s ∈ shards, ∃ i ≤ t, ∃ q,
      tr s = some (i, .answer (.ok q)) ∧ answers.get? s = some q := by
  rw [result_dispatch, Option.map_eq_some_iff] at h
  obtain ⟨⟨t', o⟩, hcollect, heq⟩ := h
  obtain ⟨rfl, hsettle⟩ := Prod.mk.inj heq
  cases o with
  | error e => cases hsettle
  | ok rs =>
    obtain ⟨hok, rfl⟩ := Responses.settle_eq_ok (Attempt.ofExcept_eq_ok.mp hsettle)
    rcases collect_ok hcollect with hrs | ⟨s, e, he⟩
    · refine ⟨(Responses.keys_successes hok).trans hrs.keys, ?_⟩
      intro s hs
      obtain ⟨i, hi, q, htr, hget⟩ := hrs.own_of_successes hok hs
      exact ⟨i, hi, q, htr, (Responses.get?_successes s q).mpr hget⟩
    · exact absurd he (hok s e)

theorem AnswersInTime.dispatch_eq {tr' : Transport} {l' : Limits}
    {a : ShardNumber → Except ShardError QueryResult}
    (h : AnswersInTime tr l shards a) (h' : AnswersInTime tr' l' shards a) :
    (dispatch tr l shards).result.map Prod.snd = (dispatch tr' l' shards).result.map Prod.snd := by
  by_cases hne : shards.toList = []
  · rw [(dispatch_of_empty tr l hne).2, (dispatch_of_empty tr' l' hne).2]
  · obtain ⟨t, rs, hresult, hget⟩ := h.collect hne
    obtain ⟨t', rs', hresult', hget'⟩ := h'.collect hne
    obtain rfl : rs = rs' := OrderedMap.ext_get? fun s => (hget s).trans (hget' s).symm
    rw [result_dispatch, result_dispatch, hresult, hresult']
    rfl

theorem dispatch_of_not_representable (tr : Transport) (hne : shards.toList ≠ [])
    (hstart : l.cancelAt ≠ some 0) (h : l.representable = false) :
    (dispatch tr l shards).asked = [] ∧
      (dispatch tr l shards).result = some (0, .error (.trapped .momentOverflow)) := by
  obtain ⟨hasked, hresult⟩ := collect_of_not_representable tr hne hstart h
  rw [result_dispatch, hresult]
  exact ⟨hasked, rfl⟩

/-- A collection asks every shard once and ends at the first moment at which all have ended, the
deadline has come or the cancellation has, or never. A dispatch ends with it, and succeeds exactly
if every shard did. Where the clock cannot show the deadline, both are trapped and no shard is asked.
-/
theorem gathering_ends_when_over (tr : Transport) (l : Limits) (shards : OrderedSet ShardNumber)
    (hne : shards.toList ≠ []) (hstart : ∀ c ∈ l.cancelAt, 0 < c)
    (htimeout : ∀ limit ∈ l.timeout, 0 < limit.totalNanos) :
    (l.representable = false →
      ((collect tr l shards).asked = [] ∧
        (collect tr l shards).result = some (0, .error (.trapped .momentOverflow))) ∧
      (dispatch tr l shards).asked = [] ∧
        (dispatch tr l shards).result = some (0, .error (.trapped .momentOverflow))) ∧
    (l.representable →
      (shards.toList.Nodup ∧ (collect tr l shards).asked = shards.toList ∧
        (dispatch tr l shards).asked = shards.toList) ∧
      ((collect tr l shards).result = none ↔ ∀ t, ¬Over tr l shards t) ∧
      ((dispatch tr l shards).result = none ↔ ∀ t, ¬Over tr l shards t) ∧
      ∀ t, IsLeast {t | Over tr l shards t} t →
        (l.cancelAt = some t →
          (collect tr l shards).result = some (t, .error (.refused .cancelled)) ∧
          (dispatch tr l shards).result = some (t, .error (.refused .cancelled))) ∧
        (l.cancelAt ≠ some t → ∃ rs o, (collect tr l shards).result = some (t, .ok rs) ∧
          Answers tr l shards t rs ∧ (dispatch tr l shards).result = some (t, .ofExcept o) ∧
          rs.Settles shards.size o)) := by
  have hzero : l.cancelAt ≠ some 0 := fun h => Nat.lt_irrefl 0 (hstart 0 h)
  constructor
  · intro hclock
    exact ⟨collect_of_not_representable tr hne hzero hclock,
      dispatch_of_not_representable tr hne hzero hclock⟩
  intro hclock
  have htime := l.leavesTime_of_pos htimeout
  have hasked := asked_collect tr hne hzero hclock htime
  have hcollected := collected tr hne hzero hclock htime
  have hpending := hcollected.eq_none_iff
  refine ⟨⟨nodup_toList shards, hasked, hasked⟩, hpending, ?_, ?_⟩
  · rw [result_dispatch, Option.map_eq_none_iff]
    exact hpending
  · intro t ht
    rw [result_dispatch]
    rcases hcollected.of_isLeast ht with ⟨hc, hresult⟩ | ⟨hc, rs, hresult, hrs⟩
    · rw [hresult]
      exact ⟨fun _ => ⟨rfl, rfl⟩, absurd hc⟩
    · have hsettles : rs.Settles shards.size rs.settle.value := hrs.size ▸ rs.settles
      rw [hresult]
      exact ⟨fun h => absurd h hc, fun _ => ⟨rs, rs.settle.value, rfl, hrs, rfl, hsettles⟩⟩

def someAnswer : QueryResult where
  indexName := "Orders/ByCompany"
  includedPaths := none
  totalResults := 1
  skippedResults := 0
  isStale := false
  indexTimestamp := .epoch
  lastQueryTime := .epoch
  raftCommandIndex := none
  resultEtag := 10
  results := [.text "orders/1"]
  includes := .empty

def partlyAnswering : Transport
  | 1 => some (3, .answer (.ok someAnswer))
  | 2 => some (40, .answer (.error (.unreachable "connection refused")))
  | _ => none

def deadlineFirst : Limits where
  timeout := some ⟨0, 50000000⟩
  cancelAt := some 70

theorem gathering_ends_at_deadline :
    let shards : OrderedSet ShardNumber := .ofList [1, 2, 5]
    shards.toList ≠ [] ∧ (∀ c ∈ deadlineFirst.cancelAt, 0 < c) ∧
      (∀ limit ∈ deadlineFirst.timeout, 0 < limit.totalNanos) ∧ deadlineFirst.representable ∧
      ∃ rs o, (collect partlyAnswering deadlineFirst shards).result = some (50, .ok rs) ∧
        Answers partlyAnswering deadlineFirst shards 50 rs ∧
        (dispatch partlyAnswering deadlineFirst shards).result = some (50, .ofExcept o) ∧
        rs.Settles 3 o := by
  intro shards
  have hne : shards.toList ≠ [] := by decide
  have hstart : ∀ c ∈ deadlineFirst.cancelAt, 0 < c := by decide
  have htimeout : ∀ limit ∈ deadlineFirst.timeout, 0 < limit.totalNanos := by decide
  have hleast : IsLeast {t | Over partlyAnswering deadlineFirst shards t} 50 := by
    refine ⟨.inr (.inl ⟨50, rfl, Nat.le_refl _⟩), ?_⟩
    rintro t (hall | ⟨d, hd, hdt⟩ | ⟨c, hc, hct⟩)
    · obtain ⟨e, he, -⟩ := hall 5 (by decide)
      cases he
    · cases hd
      exact hdt
    · cases hc
      omega
  have hclock : deadlineFirst.representable := by decide
  obtain ⟨-, -, -, hends⟩ :=
    (gathering_ends_when_over partlyAnswering deadlineFirst shards hne hstart htimeout).2 hclock
  exact ⟨hne, hstart, htimeout, hclock, (hends 50 hleast).2 (by decide)⟩

def beyondClock : Limits where
  timeout := some (.ofSeconds 18446744073709551615)

theorem nobody_asked_beyond_clock :
    let shards : OrderedSet ShardNumber := .ofList [1]
    (∀ limit ∈ beyondClock.timeout, 0 < limit.totalNanos) ∧
      IsLeast {t | Over partlyAnswering beyondClock shards t} 3 ∧
      (collect partlyAnswering beyondClock shards).asked = [] ∧
      (collect partlyAnswering beyondClock shards).result =
        some (0, .error (.trapped .momentOverflow)) ∧
      (dispatch partlyAnswering beyondClock shards).result =
        some (0, .error (.trapped .momentOverflow)) := by
  intro shards
  have hne : shards.toList ≠ [] := by decide
  have hclock : beyondClock.representable = false := by decide
  obtain ⟨hasked, hcollect⟩ :=
    collect_of_not_representable partlyAnswering hne (by decide) hclock
  obtain ⟨-, hdispatch⟩ := dispatch_of_not_representable partlyAnswering hne (by decide) hclock
  refine ⟨by decide, ⟨.inl ?_, ?_⟩, hasked, hcollect, hdispatch⟩
  · intro s hs
    obtain rfl : s = 1 := by simpa [shards] using hs
    exact ⟨_, rfl, Nat.le_refl 3⟩
  · rintro t (hall | ⟨d, hd, hdt⟩ | ⟨c, hc, -⟩)
    · obtain ⟨e, he, hle⟩ := hall 1 (by decide)
      cases he
      exact hle
    · cases hd
      have hlate : 3 ≤ (Span.ofSeconds 18446744073709551615).milliseconds := by decide
      exact hlate.trans hdt
    · cases hc

end ShardRouting
