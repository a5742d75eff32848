import Mathlib.Algebra.Ring.Nat
import ShardRouting.Proofs.Gather.Query
import ShardRouting.Proofs.Query.Disagreements
import ShardRouting.Proofs.RangeTable.Intervals
import ShardRouting.Proofs.Routing.Targets

namespace ShardRouting

inductive CallState
  | pending
  | answered
  | failed
  | cancelled
  | refused
  | trapped
deriving DecidableEq

namespace CallState

variable {α : Type}

def ofError : DispatchError → CallState
  | .cancelled => .cancelled
  | .noTargets => .refused
  | .shardsFailed _ _ => .failed

def ofDispatch : Attempt DispatchError α → CallState
  | .ok _ => .answered
  | .error (.refused e) => ofError e
  | .error (.trapped _) => .trapped

@[simp]
theorem ofDispatch_ok (a : α) : ofDispatch (.ok a : Attempt DispatchError α) = .answered := rfl

@[simp]
theorem ofDispatch_refused (e : DispatchError) :
    ofDispatch (.error (.refused e) : Attempt DispatchError α) = ofError e := rfl

@[simp]
theorem ofDispatch_trapped (x : Trap) :
    ofDispatch (.error (.trapped x) : Attempt DispatchError α) = .trapped := rfl

theorem ofDispatch_eq_trapped_iff {o : Attempt DispatchError α} :
    ofDispatch o = .trapped ↔ ∃ x, o = .error (.trapped x) := by
  rcases o with (e | x) | a
  · cases e <;> simp [ofError]
  · simp
  · simp

def ofQuery : Attempt QueryError QueryOutcome → CallState
  | .ok _ => .answered
  | .error (.refused (.dispatch e)) => ofError e
  | .error (.refused (.routing _)) => .refused
  | .error (.refused (.topology _)) => .refused
  | .error (.trapped _) => .trapped

def tally : CallState → Tally
  | .cancelled => { scatterCancelled := 1 }
  | .failed => { scatterFailures := 1 }
  | _ => {}

theorem tally_eq (s : CallState) : s.tally = {
    scatterCancelled := if s = .cancelled then 1 else 0
    scatterFailures := if s = .failed then 1 else 0 } := by
  cases s <;> rfl

end CallState

def Limits.asks (l : Limits) (targets : Option (OrderedSet ShardNumber)) : Bool :=
  targets.any (·.toList ≠ []) && l.cancelAt ≠ some 0

def Limits.overruns (l : Limits) (targets : Option (OrderedSet ShardNumber)) : Bool :=
  l.asks targets && !l.representable

theorem Limits.overruns_iff {l : Limits} {shards : OrderedSet ShardNumber} :
    l.overruns (some shards) ↔
      shards.toList ≠ [] ∧ l.cancelAt ≠ some 0 ∧ l.representable = false := by
  simp [overruns, asks, and_assoc]

namespace Call

variable {α β : Type}

def follow (c : Call α) (state : α → CallState) (followed : Nat) : Metered CallState := do
  return match ← c.upTo followed with
    | none => .pending
    | some (_, a) => state a

structure Accounted (l : Limits) (decisions : Nat) (asks : Bool) (state : α → CallState)
    (c : Call α) : Prop where
  opening : c.opening = { routeRequests := decisions, scatterRequests := if asks then 1 else 0 }
  closing : ∀ i m, c.ending = some (i, m) → ∃ n, m.tally = (state m.value).tally + .warnings n
  idle : asks = false → ∃ m, c.ending = some (0, m) ∧
    (state m.value = .refused ∨ state m.value = .cancelled ∧ l.cancelAt = some 0)
  asking : asks → l.cancelAt ≠ some 0 ∧
    ∀ i m, c.ending = some (i, m) → state m.value ≠ .refused

structure Carries (state : α → CallState) (state' : β → CallState) (f : α → Metered β) : Prop where
  tally : ∀ a, ∃ n, (state a).tally + (f a).tally = (state' (f a).value).tally + .warnings n
  refused : ∀ a, state' (f a).value = .refused ↔ state a = .refused
  cancelled : ∀ a, state a = .cancelled → state' (f a).value = .cancelled

variable {l : Limits} {decisions : Nat} {asks : Bool} {state : α → CallState}
  {state' : β → CallState} {c : Call α}

theorem accounted_immediate {m : Metered α} (htally : m.tally = (state m.value).tally)
    (hstate : state m.value = .refused ∨ state m.value = .cancelled ∧ l.cancelAt = some 0) :
    (immediate m).Accounted l 0 false state where
  opening := rfl
  closing := by
    intro i m' hend
    obtain ⟨rfl, rfl⟩ := Prod.mk.inj (Option.some.inj hend)
    exact ⟨0, htally⟩
  idle := fun _ => ⟨m, rfl, hstate⟩
  asking := by simp

theorem Accounted.andThen (h : c.Accounted l decisions asks state) {f : α → Metered β}
    (hf : Carries state state' f) : (c.andThen f).Accounted l decisions asks state' where
  opening := h.opening
  closing := by
    intro i m' hend
    obtain ⟨⟨j, m⟩, hm, heq⟩ := Option.map_eq_some_iff.mp hend
    obtain ⟨rfl, rfl⟩ := Prod.mk.inj heq
    obtain ⟨n, hn⟩ := h.closing j m hm
    obtain ⟨k, hk⟩ := hf.tally m.value
    refine ⟨k + n, ?_⟩
    rw [Metered.tally_bind, Metered.value_bind, hn, Tally.add_right_comm, hk, Tally.add_assoc,
      Tally.warnings_add]
  idle := by
    intro hidle
    obtain ⟨m, hm, hstate⟩ := h.idle hidle
    refine ⟨m >>= f, by rw [Call.andThen, hm, Option.map_some], ?_⟩
    exact hstate.imp (hf.refused _).mpr (And.imp_left (hf.cancelled _))
  asking := by
    intro hasking
    refine ⟨(h.asking hasking).1, ?_⟩
    intro i m' hend
    obtain ⟨⟨j, m⟩, hm, heq⟩ := Option.map_eq_some_iff.mp hend
    obtain ⟨rfl, rfl⟩ := Prod.mk.inj heq
    exact mt (hf.refused _).mp ((h.asking hasking).2 j m hm)

theorem Accounted.precededBy (h : c.Accounted l 0 asks state) (decisions : Nat) :
    (c.precededBy { routeRequests := decisions }).Accounted l decisions asks state where
  opening := by
    rw [Call.precededBy, h.opening]
    change Tally.add _ _ = _
    simp [Tally.add]
  closing := h.closing
  idle := h.idle
  asking := h.asking

theorem follow_cases (c : Call α) (state : α → CallState) (followed : Nat) :
    c.follow state followed = .count c.opening .pending ∧
        (∀ i m, c.ending = some (i, m) → followed < i) ∨
      ∃ i m, c.ending = some (i, m) ∧
        c.follow state followed = .count (c.opening + m.tally) (state m.value) := by
  rw [follow, upTo]
  cases hend : c.ending with
  | none => exact .inl ⟨rfl, by simp⟩
  | some e =>
    obtain ⟨i, m⟩ := e
    by_cases hi : i ≤ followed
    · refine .inr ⟨i, m, rfl, ?_⟩
      simp only [hi, if_true]
      rfl
    · refine .inl ⟨?_, ?_⟩
      · simp only [hi, if_false]
        rfl
      · intro j n heq
        obtain ⟨rfl, rfl⟩ := Prod.mk.inj (Option.some.inj heq)
        exact Nat.lt_of_not_le hi

theorem follow_induction {p : CallState → Prop} (followed : Nat) (hpending : p .pending)
    (hended : ∀ i a, c.result = some (i, a) → p (state a)) :
    p (c.follow state followed).value := by
  rcases c.follow_cases state followed with ⟨hfollow, -⟩ | ⟨i, m, hend, hfollow⟩
  · exact hfollow ▸ hpending
  · exact hfollow ▸ hended i m.value (by rw [result, hend, Option.map_some])

theorem value_follow_of_result {a : α} (h : c.result = some (0, a)) (followed : Nat) :
    (c.follow state followed).value = state a := by
  obtain ⟨⟨i, m⟩, hend, heq⟩ := Option.map_eq_some_iff.mp h
  obtain ⟨rfl, rfl⟩ := Prod.mk.inj heq
  simp [follow, upTo, hend, Metered.count]

theorem Accounted.follow (h : c.Accounted l decisions asks state) (followed : Nat) :
    (∃ n, (c.follow state followed).tally =
      { routeRequests := decisions, scatterRequests := if asks then 1 else 0 } +
        (c.follow state followed).value.tally + .warnings n) ∧
      (asks ↔ (c.follow state followed).value ≠ .refused ∧
        ¬((c.follow state followed).value = .cancelled ∧ l.cancelAt = some 0)) := by
  rcases c.follow_cases state followed with ⟨hfollow, hlate⟩ | ⟨i, m, hend, hfollow⟩
  · rw [hfollow, ← h.opening]
    refine ⟨⟨0, rfl⟩, iff_of_true ?_ (by simp [Metered.count])⟩
    by_contra hidle
    obtain ⟨m, hend, -⟩ := h.idle (Bool.eq_false_iff.mpr hidle)
    exact Nat.not_lt_zero followed (hlate 0 m hend)
  · rw [hfollow, ← h.opening]
    obtain ⟨n, hn⟩ := h.closing i m hend
    have htally : c.opening + m.tally = c.opening + (state m.value).tally + .warnings n := by
      rw [hn, Tally.add_assoc]
    refine ⟨⟨n, htally⟩, ?_, ?_⟩
    · intro hasking
      obtain ⟨hstart, hstate⟩ := h.asking hasking
      exact ⟨hstate i m hend, fun hc => hstart hc.2⟩
    · rintro ⟨hrefused, hcancelled⟩
      by_contra hidle
      obtain ⟨m', hend', hstate⟩ := h.idle (Bool.eq_false_iff.mpr hidle)
      obtain ⟨rfl, rfl⟩ := Prod.mk.inj (Option.some.inj (hend.symm.trans hend'))
      exact hstate.elim hrefused hcancelled

end Call

section Gathering

theorem Gathered.tally_eq (g : Gathered) (limit : Span) (ss : List ShardNumber) :
    g.tally = (CallState.ofDispatch (.ofExcept (g.outcome limit ss))).tally := by
  rw [Gathered.tally, outcome]
  cases g.interruption with
  | none => rfl
  | some i => cases i <;> rfl

theorem Gathered.state_ne (g : Gathered) (limit : Span) (ss : List ShardNumber) :
    CallState.ofDispatch (.ofExcept (g.outcome limit ss)) ≠ .refused ∧
      CallState.ofDispatch (.ofExcept (g.outcome limit ss)) ≠ .failed := by
  rw [outcome]
  cases g.interruption with
  | none => simp [Attempt.ofExcept]
  | some i => cases i <;> simp [Attempt.ofExcept, CallState.ofError]

inductive Begins (l : Limits) (shards : OrderedSet ShardNumber) :
    Call (Attempt DispatchError Responses) → Prop
  | noTargets (h : shards.toList = []) :
    Begins l shards (.immediate (pure (.error (.refused .noTargets))))
  | cancelled (h : shards.toList ≠ []) (hc : l.cancelAt = some 0) :
    Begins l shards (.immediate (.count { scatterCancelled := 1 } (.error (.refused .cancelled))))
  | asks {c : Call (Attempt DispatchError Responses)} (h : shards.toList ≠ [])
    (hc : l.cancelAt ≠ some 0) (hopening : c.opening = { scatterRequests := 1 })
    (hending : ∀ i m, c.ending = some (i, m) → m.tally = (CallState.ofDispatch m.value).tally ∧
      CallState.ofDispatch m.value ≠ .refused ∧ CallState.ofDispatch m.value ≠ .failed) :
    Begins l shards c

variable {l : Limits} {shards : OrderedSet ShardNumber}
  {c : Call (Attempt DispatchError Responses)}

theorem Begins.accounted (h : Begins l shards c) :
    c.Accounted l 0 (l.asks (some shards)) .ofDispatch := by
  cases h with
  | noTargets h =>
    have hasks : l.asks (some shards) = false := by simp [Limits.asks, h]
    exact hasks ▸ Call.accounted_immediate rfl (.inl rfl)
  | cancelled h hc =>
    have hasks : l.asks (some shards) = false := by simp [Limits.asks, hc]
    exact hasks ▸ Call.accounted_immediate rfl (.inr ⟨rfl, hc⟩)
  | asks h hc hopening hending =>
    have hasks : l.asks (some shards) = true := by simp [Limits.asks, h, hc]
    rw [hasks]
    constructor
    case opening => exact hopening
    case closing => exact fun i m hend => ⟨0, (hending i m hend).1⟩
    case idle => simp
    case asking => exact fun _ => ⟨hc, fun i m hend => (hending i m hend).2.1⟩

theorem Begins.ne_failed (h : Begins l shards c) {i : Nat}
    {m : Metered (Attempt DispatchError Responses)} (hend : c.ending = some (i, m)) :
    CallState.ofDispatch m.value ≠ .failed := by
  cases h with
  | noTargets h =>
    obtain ⟨rfl, rfl⟩ := Prod.mk.inj (Option.some.inj hend)
    simp [CallState.ofError]
  | cancelled h hc =>
    obtain ⟨rfl, rfl⟩ := Prod.mk.inj (Option.some.inj hend)
    simp [CallState.ofError, Metered.count]
  | asks h hc hopening hending => exact (hending i m hend).2.2

variable (tr : Transport) (l : Limits) (shards : OrderedSet ShardNumber)

theorem begins_collect : Begins l shards (collect tr l shards) := by
  rw [collect]
  by_cases hempty : shards.toList = []
  · rw [if_pos (List.isEmpty_iff.mpr hempty)]
    exact .noTargets hempty
  · rw [if_neg (mt List.isEmpty_iff.mp hempty)]
    by_cases hc : l.cancelAt = some 0
    · rw [if_pos hc]
      exact .cancelled hempty hc
    · rw [if_neg hc]
      split
      · refine .asks hempty hc rfl ?_
        intro i m hend
        obtain ⟨rfl, rfl⟩ := Prod.mk.inj (Option.some.inj hend)
        exact ⟨rfl, by simp, by simp⟩
      · refine .asks hempty hc rfl ?_
        intro i m hend
        obtain ⟨g, -, heq⟩ := Option.map_eq_some_iff.mp hend
        obtain ⟨rfl, rfl⟩ := Prod.mk.inj heq
        exact ⟨g.tally_eq _ _, g.state_ne _ _⟩

theorem accounted_collect :
    (collect tr l shards).Accounted l 0 (l.asks (some shards)) .ofDispatch :=
  (begins_collect tr l shards).accounted

theorem carries_settle : Call.Carries .ofDispatch .ofDispatch
    (fun o : Attempt DispatchError Responses => match o with
      | .error f => pure (.error f)
      | .ok rs => do return Attempt.ofExcept (← Responses.settle rs)) where
  tally := by
    intro o
    refine ⟨0, ?_⟩
    rcases o with (e | x) | rs
    · rfl
    · rfl
    · simp only [Responses.settle]
      split <;> rfl
  refused := by
    intro o
    rcases o with (e | x) | rs
    · rfl
    · rfl
    · simp only [Responses.settle]
      split <;> simp [Attempt.ofExcept, CallState.ofError, Metered.count]
  cancelled := by
    intro o
    rcases o with (e | x) | rs
    · exact id
    · simp
    · simp

theorem collect_ne_trapped {tr : Transport} {l : Limits} {shards : OrderedSet ShardNumber}
    (h : ¬l.overruns (some shards)) (i : Nat) (x : Trap) :
    (collect tr l shards).result ≠ some (i, .error (.trapped x)) := by
  rw [Limits.overruns_iff] at h
  intro hresult
  have hcourse := course_collect tr l shards
  rw [hresult] at hcourse
  generalize (collect tr l shards).asked = asked at hcourse
  cases hcourse with
  | trapped hne hstart hclock => exact h ⟨hne, hstart, hclock⟩
  | asked hstart hrun hcollected => cases hcollected

theorem dispatch_ne_trapped {tr : Transport} {l : Limits} {shards : OrderedSet ShardNumber}
    (h : ¬l.overruns (some shards)) (i : Nat) (x : Trap) :
    (dispatch tr l shards).result ≠ some (i, .error (.trapped x)) := by
  intro hresult
  rw [result_dispatch] at hresult
  obtain ⟨⟨j, o⟩, hcollect, heq⟩ := Option.map_eq_some_iff.mp hresult
  obtain ⟨rfl, ho⟩ := Prod.mk.inj heq
  cases o with
  | error f =>
    obtain rfl : f = .trapped x := Except.error.inj ho
    exact collect_ne_trapped h _ x hcollect
  | ok rs => exact Attempt.ofExcept_ne_trapped _ x ho

theorem accounted_dispatch :
    (dispatch tr l shards).Accounted l 0 (l.asks (some shards)) .ofDispatch :=
  (accounted_collect tr l shards).andThen carries_settle

end Gathering

section Query

variable (kind : IncludeKind)

theorem carries_present (expected : Option String) : Call.Carries .ofDispatch .ofQuery
    (fun o : Attempt DispatchError (OrderedMap ShardNumber QueryResult) => match o with
      | .error f => pure (.error (f.map .dispatch))
      | .ok answers => do
        return Attempt.ofTrap ((← combine kind answers).map (QueryOutcome.present expected))) where
  tally := by
    intro o
    rcases o with (e | x) | answers
    · exact ⟨0, rfl⟩
    · exact ⟨0, rfl⟩
    · obtain ⟨n, hn⟩ := exists_tally_combine kind answers
      refine ⟨n, ?_⟩
      simp only [Metered.tally_bind, Metered.value_bind, Metered.tally_pure, Metered.value_pure, hn]
      cases (combine kind answers).value <;> rfl
  refused := by
    intro o
    rcases o with (e | x) | answers
    · rfl
    · rfl
    · simp only [Metered.value_bind, Metered.value_pure]
      cases (combine kind answers).value <;>
        simp [Except.map, Attempt.ofTrap, CallState.ofQuery]
  cancelled := by
    intro o
    rcases o with (e | x) | answers
    · exact id
    · simp
    · simp

theorem accounted_execute (r : Router) (t : Topology) (tr : Transport) (l : Limits) (q : IndexQuery)
    (scope : Scope) (expected : Option String) :
    (execute r t tr l q scope expected).Accounted l (scope.decisions t)
      (l.asks (scope.resolve r t).value.toOption) .ofQuery := by
  simp only [execute, scope.tally_resolve r t]
  cases hresolve : (scope.resolve r t).value with
  | error e =>
    have hstate : CallState.ofQuery (.error (.refused e)) = .refused := by
      cases e with
      | dispatch d => exact absurd hresolve (resolve_ne_dispatch d)
      | routing e => rfl
      | topology e => rfl
    refine .precededBy (Call.accounted_immediate ?_ (.inl hstate)) _
    rw [Metered.tally_pure, Metered.value_pure, hstate]
    rfl
  | ok shards =>
    exact ((accounted_dispatch tr l shards).andThen (carries_present _ expected)).precededBy _

end Query

section Requests

variable (r : Router) (t : Topology)

theorem Router.tally_decideBucket (b : Bucket) :
    (r.decideBucket t b).tally = { routeRequests := if b < t.space then 1 else 0 } := by
  rw [decideBucket]
  by_cases hb : b < t.space
  · rw [if_neg (UInt32.not_le.mpr hb), if_pos hb, decisionTally_eq]
    rfl
  · rw [if_pos (UInt32.not_lt.mp hb), if_neg hb]
    rfl

theorem Router.tally_decide (key : String) : (r.decide t key).tally =
    { routeRequests := if r.bucket t key = .error (.refused (.emptyKey key)) then 0 else 1 } := by
  rw [decide, bucket]
  rcases bucketFor_cases key r.separator t.space_ne_zero with ⟨b, hlt, hb⟩ | hempty
  · rw [hb, Metered.tally_bind, tally_decideBucket, if_pos hlt]
    rfl
  · rw [hempty, if_pos rfl]
    rfl

end Requests

inductive RoutingRequest
  | decideBucket (r : Router) (t : Topology) (b : Bucket)
  | readShard (r : Router) (t : Topology) (b : Bucket)
  | decide (r : Router) (t : Topology) (key : String)
  | route (r : Router) (t : Topology) (key : String)
  | routeForWrite (r : Router) (t : Topology) (key : String)
  | resolve (r : Router) (t : Topology) (scope : Scope)
  | locate (t : Topology) (b : Bucket)
  | check (l : Layout)

namespace RoutingRequest

def tally : RoutingRequest → Tally
  | .decideBucket r t b => (r.decideBucket t b).tally
  | .readShard r t b => (r.readShard t b).tally
  | .decide r t key => (r.decide t key).tally
  | .route r t key => (r.route t key).tally
  | .routeForWrite r t key => (r.routeForWrite t key).tally
  | .resolve r t scope => (scope.resolve r t).tally
  | .locate t b => (t.ranges.locate b).tally
  | .check l => l.check.tally

def decisions : RoutingRequest → Nat
  | .decideBucket _ t b | .readShard _ t b => if b < t.space then 1 else 0
  | .decide r t key | .route r t key | .routeForWrite r t key =>
    if r.bucket t key = .error (.refused (.emptyKey key)) then 0 else 1
  | .resolve _ t scope => scope.decisions t
  | .locate _ _ | .check _ => 0

theorem tally_eq (q : RoutingRequest) : q.tally = { routeRequests := q.decisions } := by
  cases q with
  | decideBucket r t b => exact r.tally_decideBucket t b
  | readShard r t b =>
    rw [tally, Router.readShard, Metered.tally_bind, Metered.tally_pure, Tally.add_zero]
    exact r.tally_decideBucket t b
  | decide r t key => exact r.tally_decide t key
  | route r t key =>
    rw [tally, Router.route, Metered.tally_bind, Metered.tally_pure, Tally.add_zero]
    exact r.tally_decide t key
  | routeForWrite r t key =>
    rw [tally, Router.routeForWrite, Metered.tally_bind, Metered.tally_pure, Tally.add_zero]
    exact r.tally_decide t key
  | resolve r t scope => exact scope.tally_resolve r t
  | locate t b =>
    rw [tally, t.wellFormed.covers.locate_eq]
    rfl
  | check l => exact l.tally_check

end RoutingRequest

inductive Gathering
  | collect (tr : Transport) (l : Limits) (shards : OrderedSet ShardNumber)
  | dispatch (tr : Transport) (l : Limits) (shards : OrderedSet ShardNumber)
  | execute (r : Router) (t : Topology) (tr : Transport) (l : Limits) (q : IndexQuery)
    (scope : Scope) (expected : Option String)

namespace Gathering

def limits : Gathering → Limits
  | .collect _ l _ | .dispatch _ l _ | .execute _ _ _ l _ _ _ => l

def targets? : Gathering → Option (OrderedSet ShardNumber)
  | .collect _ _ shards | .dispatch _ _ shards => some shards
  | .execute r t _ _ _ scope _ => (scope.resolve r t).value.toOption

def asks (g : Gathering) : Bool := g.limits.asks g.targets?

def overruns (g : Gathering) : Bool := g.limits.overruns g.targets?

def decisions : Gathering → Nat
  | .collect _ _ _ | .dispatch _ _ _ => 0
  | .execute _ t _ _ _ scope _ => scope.decisions t

def follow (followed : Nat) : Gathering → Metered CallState
  | .collect tr l shards => (ShardRouting.collect tr l shards).follow .ofDispatch followed
  | .dispatch tr l shards => (ShardRouting.dispatch tr l shards).follow .ofDispatch followed
  | .execute r t tr l q scope expected =>
    (ShardRouting.execute r t tr l q scope expected).follow .ofQuery followed

theorem accounted_follow (g : Gathering) (followed : Nat) :
    (∃ n, (g.follow followed).tally =
      { routeRequests := g.decisions, scatterRequests := if g.asks then 1 else 0 } +
        (g.follow followed).value.tally + .warnings n) ∧
      (g.asks ↔ (g.follow followed).value ≠ .refused ∧
        ¬((g.follow followed).value = .cancelled ∧ g.limits.cancelAt = some 0)) := by
  cases g with
  | collect tr l shards => exact (accounted_collect tr l shards).follow followed
  | dispatch tr l shards => exact (accounted_dispatch tr l shards).follow followed
  | execute r t tr l q scope expected =>
    exact (accounted_execute r t tr l q scope expected).follow followed

/-- A collection takes failures for answers. It is trapped for its deadline only, and so is a
dispatch; a query may be trapped for its sums as well. -/
def CanReach (g : Gathering) (s : CallState) : Prop :=
  match g with
  | .collect _ _ _ => s ≠ .failed ∧ (s = .trapped ↔ g.overruns)
  | .dispatch _ _ _ => s = .trapped ↔ g.overruns
  | .execute _ _ _ _ _ _ _ => g.overruns → s = .trapped

section Trapped

variable {α : Type} {c : Call (Attempt DispatchError α)} {overruns : Bool}

theorem follow_eq_trapped_iff
    (htrapped : overruns → ∃ x, c.result = some (0, .error (.trapped x)))
    (hnot : ¬overruns → ∀ i x, c.result ≠ some (i, .error (.trapped x))) (followed : Nat) :
    (c.follow .ofDispatch followed).value = .trapped ↔ overruns := by
  by_cases hover : overruns
  · obtain ⟨x, hx⟩ := htrapped hover
    rw [Call.value_follow_of_result hx]
    exact iff_of_true rfl hover
  · refine iff_of_false (Call.follow_induction (p := (· ≠ .trapped)) followed (by simp) ?_) hover
    intro i o ho htrap
    obtain ⟨x, rfl⟩ := CallState.ofDispatch_eq_trapped_iff.mp htrap
    exact hnot hover i x ho

end Trapped

theorem canReach_follow (g : Gathering) (followed : Nat) : g.CanReach (g.follow followed).value := by
  cases g with
  | collect tr l shards =>
    constructor
    · refine Call.follow_induction (p := (· ≠ .failed)) followed (by simp) ?_
      intro i o ho
      obtain ⟨⟨j, m⟩, hend, heq⟩ := Option.map_eq_some_iff.mp ho
      obtain ⟨rfl, rfl⟩ := Prod.mk.inj heq
      exact (begins_collect tr l shards).ne_failed hend
    · apply follow_eq_trapped_iff _ collect_ne_trapped
      intro hover
      obtain ⟨hne, hstart, hclock⟩ := Limits.overruns_iff.mp hover
      exact ⟨_, (collect_of_not_representable tr hne hstart hclock).2⟩
  | dispatch tr l shards =>
    apply follow_eq_trapped_iff _ dispatch_ne_trapped
    intro hover
    obtain ⟨hne, hstart, hclock⟩ := Limits.overruns_iff.mp hover
    exact ⟨_, (dispatch_of_not_representable tr hne hstart hclock).2⟩
  | execute r t tr l q scope expected =>
    intro hover
    change l.overruns (scope.resolve r t).value.toOption at hover
    cases hresolve : (scope.resolve r t).value with
    | error e =>
      rw [hresolve] at hover
      cases hover
    | ok shards =>
      rw [hresolve] at hover
      obtain ⟨hne, hstart, hclock⟩ := Limits.overruns_iff.mp hover
      have hresult : (ShardRouting.execute r t tr l q scope expected).result =
          some (0, .error (.trapped .momentOverflow)) := by
        rw [result_execute hresolve, (dispatch_of_not_representable tr hne hstart hclock).2]
        rfl
      exact Call.value_follow_of_result hresult followed

end Gathering

inductive Activity
  | routing (q : RoutingRequest)
  | gathering (g : Gathering) (followed : Nat)

namespace Activity

def observe : Activity → Metered (Option CallState)
  | .routing q => .count q.tally none
  | .gathering g followed => do return some (← g.follow followed)

def asks : Activity → Bool
  | .routing _ => false
  | .gathering g _ => g.asks

def decisions : Activity → Nat
  | .routing q => q.decisions
  | .gathering g _ => g.decisions

def overruns : Activity → Bool
  | .routing _ => false
  | .gathering g _ => g.overruns

def cancelAt : Activity → Option Nat
  | .routing _ => none
  | .gathering g _ => g.limits.cancelAt

end Activity

abbrev Log := List (Activity × Option CallState)

namespace Log

def count (log : Log) (s : CallState) : Nat := log.countP (·.2 = some s)

def inFlight (log : Log) : Nat :=
  log.countP fun e => e.2 = some .cancelled ∧ e.1.cancelAt ≠ some 0

structure Accounts (log : Log) (total : Tally) : Prop where
  scatterRequests : total.scatterRequests = log.countP (·.1.asks)
  scatterCancelled : total.scatterCancelled = log.count .cancelled
  scatterFailures : total.scatterFailures = log.count .failed
  settled : total.scatterRequests = log.count .answered + log.count .failed + log.inFlight +
    log.count .pending + log.count .trapped
  routeRequests : total.routeRequests = (log.map (·.1.decisions)).sum
  routeCorruption : total.routeCorruption = 0

theorem accounts_nil : Accounts [] .zero := ⟨rfl, rfl, rfl, rfl, rfl, rfl⟩

variable {log log' : Log} {total total' : Tally}

theorem Accounts.append (h : Accounts log total) (h' : Accounts log' total') :
    Accounts (log ++ log') (total + total') where
  scatterRequests := by
    rw [List.countP_append, ← h.scatterRequests, ← h'.scatterRequests]
    rfl
  scatterCancelled := by
    rw [count, List.countP_append, ← count, ← count, ← h.scatterCancelled, ← h'.scatterCancelled]
    rfl
  scatterFailures := by
    rw [count, List.countP_append, ← count, ← count, ← h.scatterFailures, ← h'.scatterFailures]
    rfl
  settled := by
    have hsum : (total + total').scatterRequests = total.scatterRequests + total'.scatterRequests :=
      rfl
    have hs := h.settled
    have hs' := h'.settled
    simp only [count, inFlight, List.countP_append] at *
    omega
  routeRequests := by
    rw [List.map_append, List.sum_append, ← h.routeRequests, ← h'.routeRequests]
    rfl
  routeCorruption := congrArg₂ (· + ·) h.routeCorruption h'.routeCorruption

theorem accounts_routing (q : RoutingRequest) : Accounts [(.routing q, none)] q.tally := by
  rw [q.tally_eq]
  constructor <;> rfl

theorem total_eq (decisions n : Nat) (asks : Bool) (s : CallState) :
    { routeRequests := decisions, scatterRequests := if asks then 1 else 0 } + s.tally +
        .warnings n =
      ({ routeRequests := decisions
         scatterRequests := if asks then 1 else 0
         scatterFailures := if s = .failed then 1 else 0
         scatterCancelled := if s = .cancelled then 1 else 0
         combineWarnings := n } : Tally) := by
  change Tally.add (Tally.add _ _) _ = _
  simp [Tally.add, s.tally_eq, Tally.warnings]

theorem accounts_gathering (g : Gathering) (followed : Nat) :
    Accounts [(.gathering g followed, some (g.follow followed).value)] (g.follow followed).tally := by
  obtain ⟨⟨n, htally⟩, hasks⟩ := g.accounted_follow followed
  rw [htally, total_eq]
  generalize (g.follow followed).value = s at *
  constructor
  case scatterRequests => simp [Activity.asks]
  case scatterCancelled => simp [count]
  case scatterFailures => simp [count]
  case settled =>
    simp only [hasks]
    cases s <;> simp [count, inFlight, Activity.cancelAt]
  case routeRequests => simp [Activity.decisions]
  case routeCorruption => rfl

theorem accounts_observe (a : Activity) : Accounts [(a, a.observe.value)] a.observe.tally := by
  cases a with
  | routing q => exact accounts_routing q
  | gathering g followed => exact accounts_gathering g followed

end Log

namespace Activity

def run : List Activity → Metered Log
  | [] => pure []
  | a :: rest => do
    let s ← a.observe
    return (a, s) :: (← run rest)

theorem value_run (as : List Activity) : (run as).value = as.map fun a => (a, a.observe.value) := by
  induction as with
  | nil => rfl
  | cons a rest ih =>
    rw [List.map_cons, ← ih]
    rfl

theorem accounts_run (as : List Activity) : Log.Accounts (run as).value (run as).tally := by
  induction as with
  | nil => exact Log.accounts_nil
  | cons a rest ih => exact (Log.accounts_observe a).append ih

variable {as : List Activity}

theorem mem_run {a : Activity} {s : Option CallState} :
    (a, s) ∈ (run as).value ↔ a ∈ as ∧ s = a.observe.value := by
  rw [value_run, List.mem_map]
  constructor
  · rintro ⟨b, hb, heq⟩
    cases heq
    exact ⟨hb, rfl⟩
  · rintro ⟨ha, rfl⟩
    exact ⟨a, ha, rfl⟩

theorem canReach_of_mem_run {g : Gathering} {followed : Nat} {s : CallState}
    (h : (.gathering g followed, some s) ∈ (run as).value) : g.CanReach s := by
  obtain ⟨-, hs⟩ := mem_run.mp h
  exact Option.some.inj hs ▸ g.canReach_follow followed

theorem count_run_eq_zero {s : CallState}
    (h : ∀ g followed, .gathering g followed ∈ as → ¬g.CanReach s) :
    (run as).value.count s = 0 := by
  rw [Log.count, List.countP_eq_zero]
  rintro ⟨a, s'⟩ hmem hs
  obtain rfl : s' = some s := of_decide_eq_true hs
  obtain ⟨ha, hs⟩ := mem_run.mp hmem
  cases a with
  | routing q => cases hs
  | gathering g followed => exact h g followed ha (canReach_of_mem_run hmem)

theorem count_trapped_of_dispatches
    (h : ∀ g followed, .gathering g followed ∈ as → ∃ tr l shards, g = .dispatch tr l shards) :
    (run as).value.count .trapped = as.countP overruns := by
  rw [value_run, Log.count, List.countP_map]
  apply List.countP_congr
  intro a ha
  cases a with
  | routing q => simp [observe, overruns, Metered.count]
  | gathering g followed =>
    obtain ⟨tr, l, shards, rfl⟩ := h g followed ha
    have hreach : ((Gathering.dispatch tr l shards).follow followed).value = .trapped ↔
        (Gathering.dispatch tr l shards).overruns :=
      (Gathering.dispatch tr l shards).canReach_follow followed
    simpa [observe, overruns] using hreach

/-- Every operation of a run is counted once, for what it has come to. A run of collections counts no
failures, and in a run of dispatches every request is answered, has failed, was cancelled, is pending
or was trapped, for a deadline that the clock cannot show. -/
theorem counters_account_for_run (as : List Activity) :
    (run as).value = as.map (fun a => (a, a.observe.value)) ∧
      Log.Accounts (run as).value (run as).tally ∧
      (∀ g followed s, (.gathering g followed, some s) ∈ (run as).value → g.CanReach s) ∧
      ((∀ g followed, .gathering g followed ∈ as → ∃ tr l shards, g = .collect tr l shards) →
        (run as).tally.scatterFailures = 0) ∧
      ((∀ g followed, .gathering g followed ∈ as → ∃ tr l shards, g = .dispatch tr l shards) →
        (run as).value.count .trapped = as.countP overruns ∧
          ((run as).tally.scatterRequests = (run as).value.count .answered +
              (run as).value.count .failed + (run as).value.inFlight +
                (run as).value.count .pending ↔
            ∀ a ∈ as, ¬a.overruns)) := by
  have haccounts := accounts_run as
  refine ⟨value_run as, haccounts, fun _ _ _ => canReach_of_mem_run, ?_, ?_⟩
  · intro hcollections
    rw [haccounts.scatterFailures]
    apply count_run_eq_zero
    intro g followed hg hreach
    obtain ⟨tr, l, shards, rfl⟩ := hcollections g followed hg
    exact hreach.1 rfl
  · intro hdispatches
    have htrapped := count_trapped_of_dispatches hdispatches
    refine ⟨htrapped, ?_⟩
    rw [haccounts.settled, htrapped, Nat.add_eq_left, List.countP_eq_zero]

theorem request_counted_alone :
    let as : List Activity := [.gathering (.dispatch partlyAnswering beyondClock (.ofList [1])) 1000]
    (run as).tally.scatterRequests = 1 ∧ (run as).value.count .answered = 0 ∧
      (run as).value.count .failed = 0 ∧ (run as).value.inFlight = 0 ∧
      (run as).value.count .pending = 0 := by
  decide

end Activity

end ShardRouting
