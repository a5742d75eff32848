import ShardRouting.Gather.Error
import ShardRouting.Routing.Router

namespace ShardRouting

inductive Scope
  | all
  | buckets (bs : List Bucket)
  | shards (ss : List ShardNumber)
deriving DecidableEq

def Router.readShards (r : Router) (t : Topology) :
    List Bucket → Metered (Except RoutingError (List ShardNumber))
  | [] => pure (.ok [])
  | b :: rest => do
    match ← r.readShard t b with
    | .error e => pure (.error e)
    | .ok s => return (← r.readShards t rest).map (s :: ·)

namespace Scope

def resolve (r : Router) (t : Topology) :
    Scope → Metered (Except QueryError (OrderedSet ShardNumber))
  | .all => pure (.ok t.shards)
  | .buckets bs => do
    return match ← r.readShards t bs with
      | .ok ss => .ok (.ofList ss)
      | .error e => .error (.routing e)
  | .shards ss =>
    pure <| match ss.find? (· ∉ t.shards) with
      | some s => .error (.topology (.unknownShard s))
      | none => .ok (.ofList ss)

end Scope

end ShardRouting
