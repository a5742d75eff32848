import ShardRouting.Gather.Execute
import ShardRouting.Proofs.Gather.Dispatch
import ShardRouting.Proofs.Query.Totals

namespace ShardRouting

variable {r : Router} {t : Topology} {q : IndexQuery} {scope : Scope} {expected : Option String}
  {tr : Transport} {l : Limits} {shards : OrderedSet ShardNumber} {i : Nat}
  {answers : OrderedMap ShardNumber QueryResult}

def concluded (kind : IncludeKind) (expected : Option String) :
    Attempt DispatchError (OrderedMap ShardNumber QueryResult) → Attempt QueryError QueryOutcome
  | .error f => .error (f.map .dispatch)
  | .ok answers => .ofTrap ((combine kind answers).value.map (.present expected))

theorem concluded_of_sumsFit (kind : IncludeKind) (h : SumsFit answers) :
    ∃ c, (combine kind answers).value = .ok c ∧ c.shards = answers.keys.toList ∧
      concluded kind expected (.ok answers) = .ok (.present expected c) := by
  obtain ⟨c, hc, hshards⟩ := combine_of_sumsFit kind h
  refine ⟨c, hc, hshards, ?_⟩
  rw [concluded, hc]
  rfl

theorem concluded_of_not_sumsFit (kind : IncludeKind) (h : ¬SumsFit answers) :
    concluded kind expected (.ok answers) = .error (.trapped .additionOverflow) := by
  rw [concluded, combine_of_not_sumsFit kind h]
  rfl

theorem execute_of_refused {e : QueryError} (h : (scope.resolve r t).value = .error e) :
    (execute r t tr l q scope expected).asked = [] ∧
      (execute r t tr l q scope expected).result = some (0, .error (.refused e)) := by
  simp only [execute, h]
  exact ⟨rfl, rfl⟩

section Resolved

variable (h : (scope.resolve r t).value = .ok shards)
include h

theorem asked_execute :
    (execute r t tr l q scope expected).asked = (dispatch tr l shards).asked := by
  simp only [execute, h]
  rfl

theorem result_execute : (execute r t tr l q scope expected).result =
    (dispatch tr l shards).result.map fun e => (e.1, concluded q.includeKind expected e.2) := by
  simp only [execute, h]
  rw [Call.result_precededBy, Call.result_andThen]
  congr 1
  funext e
  cases e.2 <;> rfl

theorem execute_of_sumsFit (hd : (dispatch tr l shards).result = some (i, .ok answers))
    (hsums : SumsFit answers) :
    ∃ c, (combine q.includeKind answers).value = .ok c ∧ c.shards = shards.toList ∧
      (execute r t tr l q scope expected).result = some (i, .ok (.present expected c)) := by
  obtain ⟨c, hc, hshards, hend⟩ := concluded_of_sumsFit q.includeKind hsums
  refine ⟨c, hc, (dispatch_ok hd).1 ▸ hshards, ?_⟩
  rw [result_execute h, hd, Option.map_some, hend]

theorem execute_of_not_sumsFit (hd : (dispatch tr l shards).result = some (i, .ok answers))
    (hsums : ¬SumsFit answers) : (execute r t tr l q scope expected).result =
      some (i, .error (.trapped .additionOverflow)) := by
  rw [result_execute h, hd, Option.map_some, concluded_of_not_sumsFit _ hsums]

theorem execute_succeeds_iff : (∃ o, (execute r t tr l q scope expected).result = some (i, .ok o)) ↔
    ∃ answers, (dispatch tr l shards).result = some (i, .ok answers) ∧ SumsFit answers := by
  constructor
  · rintro ⟨o, ho⟩
    rw [result_execute h, Option.map_eq_some_iff] at ho
    obtain ⟨⟨j, e⟩, hd, heq⟩ := ho
    obtain ⟨rfl, hend⟩ := Prod.mk.inj heq
    cases e with
    | error f => cases hend
    | ok answers =>
      refine ⟨answers, hd, ?_⟩
      by_contra hsums
      rw [concluded_of_not_sumsFit _ hsums] at hend
      cases hend
  · rintro ⟨answers, hd, hsums⟩
    obtain ⟨c, -, -, hend⟩ := execute_of_sumsFit h hd hsums
    exact ⟨_, hend⟩

end Resolved

structure FollowsDispatch (tr : Transport) (l : Limits) (shards : OrderedSet ShardNumber)
    (kind : IncludeKind) (expected : Option String) (c : Call (Attempt QueryError QueryOutcome)) :
    Prop where
  asked : c.asked = (dispatch tr l shards).asked
  pending : (dispatch tr l shards).result = none → c.result = none
  refused : ∀ i e, (dispatch tr l shards).result = some (i, .error (.refused e)) →
    c.result = some (i, .error (.refused (.dispatch e)))
  trapped : ∀ i x, (dispatch tr l shards).result = some (i, .error (.trapped x)) →
    c.result = some (i, .error (.trapped x))
  succeeds_iff : ∀ i, (∃ o, c.result = some (i, .ok o)) ↔
    ∃ answers, (dispatch tr l shards).result = some (i, .ok answers) ∧ SumsFit answers
  own : ∀ i answers, (dispatch tr l shards).result = some (i, .ok answers) →
    answers.keys = shards ∧ ∀ s ∈ shards, ∃ j ≤ i, ∃ a,
      tr s = some (j, .answer (.ok a)) ∧ answers.get? s = some a
  overflowing : ∀ i answers, (dispatch tr l shards).result = some (i, .ok answers) →
    ¬SumsFit answers → c.result = some (i, .error (.trapped .additionOverflow))
  answered : ∀ i answers, (dispatch tr l shards).result = some (i, .ok answers) →
    SumsFit answers → ∃ r, (combine kind answers).value = .ok r ∧ r.shards = shards.toList ∧
      (expected = some (toString r.resultEtag) →
        c.result = some (i, .ok (.notModified (toString r.resultEtag)))) ∧
      (expected ≠ some (toString r.resultEtag) → c.result = some (i, .ok (.combined r)))

theorem execute_followsDispatch (h : (scope.resolve r t).value = .ok shards) :
    FollowsDispatch tr l shards q.includeKind expected (execute r t tr l q scope expected) := by
  constructor
  case asked => exact asked_execute h
  case pending =>
    intro hd
    rw [result_execute h, hd, Option.map_none]
  case refused =>
    intro i e hd
    rw [result_execute h, hd, Option.map_some, concluded, Failure.map]
  case trapped =>
    intro i x hd
    rw [result_execute h, hd, Option.map_some, concluded, Failure.map]
  case succeeds_iff => exact fun i => execute_succeeds_iff h
  case own => exact fun i answers hd => dispatch_ok hd
  case overflowing => exact fun i answers hd hsums => execute_of_not_sumsFit h hd hsums
  case answered =>
    intro i answers hd hsums
    obtain ⟨c, hc, hshards, hend⟩ := execute_of_sumsFit h hd hsums
    refine ⟨c, hc, hshards, ?_, ?_⟩
    · intro hsame
      rw [hend, QueryOutcome.present, CombinedResult.etag, if_pos hsame]
    · intro hother
      rw [hend, QueryOutcome.present, CombinedResult.etag, if_neg hother]

theorem execute_eq_of_answersInTime {tr' : Transport} {l' : Limits}
    {a : ShardNumber → Except ShardError QueryResult} (h : (scope.resolve r t).value = .ok shards)
    (hin : AnswersInTime tr l shards a) (hin' : AnswersInTime tr' l' shards a) :
    (execute r t tr l q scope expected).result.map Prod.snd =
      (execute r t tr' l' q scope expected).result.map Prod.snd := by
  have hend : ∀ tr l, (execute r t tr l q scope expected).result.map Prod.snd =
      ((dispatch tr l shards).result.map Prod.snd).map (concluded q.includeKind expected) := by
    intro tr l
    rw [result_execute h, Option.map_map, Option.map_map]
    rfl
  rw [hend, hend, hin.dispatch_eq hin']

theorem resolve_ne_dispatch (d : DispatchError) :
    (scope.resolve r t).value ≠ .error (.dispatch d) := by
  cases scope with
  | all => simp [Scope.resolve]
  | buckets bs =>
    simp only [Scope.resolve, Metered.value_bind, Metered.value_pure]
    cases (r.readShards t bs).value <;> simp
  | shards ss =>
    simp only [Scope.resolve, Metered.value_pure]
    cases ss.find? (· ∉ t.shards) <;> simp

/-- A query is refused before any shard is asked, or follows the dispatch to exactly its targets; and
it does not matter when the targets give their answers, as long as they give them in time. -/
theorem execute_all_or_nothing (r : Router) (t : Topology) (q : IndexQuery) (scope : Scope)
    (expected : Option String) :
    (∀ tr l e, (scope.resolve r t).value = .error e →
      (∀ d, e ≠ .dispatch d) ∧ (execute r t tr l q scope expected).asked = [] ∧
        (execute r t tr l q scope expected).result = some (0, .error (.refused e))) ∧
    (∀ tr l shards, (scope.resolve r t).value = .ok shards → shards.toList = [] →
      (execute r t tr l q scope expected).asked = [] ∧
        (execute r t tr l q scope expected).result =
          some (0, .error (.refused (.dispatch .noTargets)))) ∧
    (∀ tr l shards, (scope.resolve r t).value = .ok shards →
      FollowsDispatch tr l shards q.includeKind expected (execute r t tr l q scope expected)) ∧
    ∀ tr l tr' l' shards a, (scope.resolve r t).value = .ok shards →
      AnswersInTime tr l shards a → AnswersInTime tr' l' shards a →
        (execute r t tr l q scope expected).result.map Prod.snd =
          (execute r t tr' l' q scope expected).result.map Prod.snd := by
  refine ⟨?_, ?_, ?_, ?_⟩
  · intro tr l e h
    refine ⟨?_, execute_of_refused h⟩
    rintro d rfl
    exact resolve_ne_dispatch d h
  · intro tr l shards h hempty
    obtain ⟨hasked, hresult⟩ := dispatch_of_empty tr l hempty
    refine ⟨(asked_execute h).trans hasked, ?_⟩
    rw [result_execute h, hresult, Option.map_some, concluded, Failure.map]
  · intro tr l shards h
    exact execute_followsDispatch h
  · intro tr l tr' l' shards a h hin hin'
    exact execute_eq_of_answersInTime h hin hin'

end ShardRouting
