import ShardRouting.Gather.Error
import ShardRouting.Query.Result
import ShardRouting.Tally
import ShardRouting.Trap

/-!
Gathering of shard answers. One task a shard is started at once; the gathering ends with the last
task, at the deadline or at the cancellation, whichever comes first. Time is counted in whole
milliseconds from the start of the call.
-/

namespace ShardRouting

inductive Ending
  | answer (r : Except ShardError QueryResult)
  | death

/-- When and how the task of a shard ends; nothing for a task that waits to be cancelled. -/
abbrev Transport := ShardNumber → Option (Nat × Ending)

abbrev Responses := OrderedMap ShardNumber (Except ShardError QueryResult)

/-- How long a gathering may take. The clock shows `clock` nanoseconds when it starts. -/
structure Limits where
  timeout : Option Span := none
  cancelAt : Option Nat := none
  clock : Nat := 0
deriving DecidableEq

inductive Interruption
  | cancellation
  | deadline
deriving DecidableEq

namespace Limits

variable (l : Limits)

def deadline : Option Nat := l.timeout.map Span.milliseconds

def leavesTime : Bool := l.deadline ≠ some 0

/-- The first moment of the clock, in nanoseconds, whose seconds need a 64th bit. -/
def clockEnd : Nat := (1 <<< 63) * 1000000000

def representable : Bool := l.timeout.all fun t => l.clock + t.totalNanos < clockEnd

def interruption : Option (Nat × Interruption) :=
  match l.cancelAt, l.deadline with
  | some c, some d => some (if c ≤ d then (c, .cancellation) else (d, .deadline))
  | some c, none => some (c, .cancellation)
  | none, some d => some (d, .deadline)
  | none, none => none

end Limits

def Interruption.precedes (i : Interruption) (moment instant : Nat) : Bool :=
  match i with
  | .cancellation => moment ≤ instant
  | .deadline => moment < instant

/-- A call to several shards: those that were asked, what its start counts, and when it ends, with
what, and what its end counts. A call without end waits for ever. -/
structure Call (α : Type) where
  asked : List ShardNumber
  opening : Tally
  ending : Option (Nat × Metered α)

namespace Call

variable {α β : Type}

def immediate (m : Metered α) : Call α := ⟨[], .zero, some (0, m)⟩

def andThen (c : Call α) (f : α → Metered β) : Call β :=
  ⟨c.asked, c.opening, c.ending.map fun e => (e.1, e.2 >>= f)⟩

def precededBy (c : Call α) (t : Tally) : Call α := { c with opening := t + c.opening }

def upTo (c : Call α) (horizon : Nat) : Metered (Option (Nat × α)) :=
  match c.ending with
  | none => .count c.opening none
  | some (moment, m) =>
    if moment ≤ horizon then .count (c.opening + m.tally) (some (moment, m.value))
    else .count c.opening none

end Call

structure Arrival where
  instant : Nat
  shard : ShardNumber
  ending : Ending

namespace Arrival

def inOrder (tr : Transport) (shards : List ShardNumber) : List Arrival :=
  (shards.filterMap fun s => (tr s).map fun e => ⟨e.1, s, e.2⟩).mergeSort
    fun a b => a.instant ≤ b.instant

def record (a : Arrival) (rs : Responses) : Responses :=
  match a.ending with
  | .answer r => rs.insert a.shard r
  | .death => rs

end Arrival

structure Gathered where
  instant : Nat
  interruption : Option Interruption
  responses : Responses

namespace Gathered

def await (l : Limits) (hanging : Bool) (g : Gathered) : List Arrival → Option Gathered
  | [] =>
    if hanging then l.interruption.map fun i => { g with instant := i.1, interruption := some i.2 }
    else some g
  | a :: rest =>
    match l.interruption with
    | none => await l hanging { g with instant := a.instant, responses := a.record g.responses } rest
    | some (moment, i) =>
      if i.precedes moment a.instant then some { g with instant := moment, interruption := some i }
      else
        await l hanging { g with instant := a.instant, responses := a.record g.responses } rest

def complete (rs : Responses) (shards : List ShardNumber) (e : ShardNumber → ShardError) :
    Responses :=
  shards.foldl (fun rs s => rs.insertNew s (.error (e s))) rs

def outcome (g : Gathered) (limit : Span) (shards : List ShardNumber) :
    Except DispatchError Responses :=
  match g.interruption with
  | some .cancellation => .error .cancelled
  | some .deadline => .ok (complete g.responses shards fun _ => .timeout limit)
  | none => .ok (complete g.responses shards fun s =>
      .taskFailed s!"task for shard {s} did not report")

def tally (g : Gathered) : Tally :=
  match g.interruption with
  | some .cancellation => { scatterCancelled := 1 }
  | _ => {}

end Gathered

/-- The request is counted before the deadline is set, and the tasks start after it. -/
def collect (tr : Transport) (l : Limits) (shards : OrderedSet ShardNumber) :
    Call (Attempt DispatchError Responses) :=
  if shards.toList.isEmpty then .immediate (pure (.error (.refused .noTargets)))
  else if l.cancelAt = some 0 then
    .immediate (.count { scatterCancelled := 1 } (.error (.refused .cancelled)))
  else if !l.representable then
    (Call.immediate (pure (.error (.trapped .momentOverflow)))).precededBy { scatterRequests := 1 }
  else
    let asked := if l.leavesTime then shards.toList else []
    let arrivals := Arrival.inOrder tr asked
    let hanging := arrivals.length ≠ shards.size
    { asked
      opening := { scatterRequests := 1 }
      ending := (Gathered.await l hanging ⟨0, none, .empty⟩ arrivals).map fun g =>
        (g.instant, .count g.tally (.ofExcept (g.outcome (l.timeout.getD ⟨0, 0⟩) shards.toList))) }

namespace Responses

def successes (rs : Responses) : OrderedMap ShardNumber QueryResult :=
  rs.filterMap fun _ r => r.toOption

def failures (rs : Responses) : OrderedMap ShardNumber ShardError :=
  rs.filterMap fun _ r => match r with
    | .ok _ => none
    | .error e => some e

def settle (rs : Responses) : Metered (Except DispatchError (OrderedMap ShardNumber QueryResult)) :=
  if rs.failures.entries.isEmpty then pure (.ok rs.successes)
  else .count { scatterFailures := 1 } (.error (.shardsFailed rs.size rs.failures))

end Responses

def dispatch (tr : Transport) (l : Limits) (shards : OrderedSet ShardNumber) :
    Call (Attempt DispatchError (OrderedMap ShardNumber QueryResult)) :=
  (collect tr l shards).andThen fun
    | .error f => pure (.error f)
    | .ok rs => do return Attempt.ofExcept (← Responses.settle rs)

end ShardRouting
