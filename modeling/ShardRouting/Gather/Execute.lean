import ShardRouting.Gather.Collect
import ShardRouting.Query.Combination
import ShardRouting.Query.Scope

namespace ShardRouting

inductive QueryOutcome
  | combined (r : CombinedResult)
  | notModified (etag : String)

def QueryOutcome.present (expected : Option String) (r : CombinedResult) : QueryOutcome :=
  if expected = some r.etag then .notModified r.etag else .combined r

def execute (r : Router) (t : Topology) (tr : Transport) (l : Limits) (q : IndexQuery)
    (scope : Scope) (expected : Option String) : Call (Attempt QueryError QueryOutcome) :=
  let targets := scope.resolve r t
  match targets.value with
  | .error e => (Call.immediate (pure (.error (.refused e)))).precededBy targets.tally
  | .ok shards =>
    ((dispatch tr l shards).andThen fun
      | .error f => pure (.error (f.map .dispatch))
      | .ok answers => do
        return Attempt.ofTrap ((← combine q.includeKind answers).map (.present expected))).precededBy
      targets.tally

end ShardRouting
